import Wiring.Proofs.Plan.Forwarding
import Wiring.Proofs.Plan.Plain

/-!
The identities of interfaces that are made. Each is named after its type, in the package of the type, so no two of
them agree; a declared interface of that name keeps an interface from being made, a declared class does not.
-/

namespace Wiring

def interfaceKey (k : TypeKey) : TypeKey :=
  (k.1, interfaceName k.2)

lemma interfaceKey_injective : Function.Injective interfaceKey := by
  intro k k' h
  obtain ⟨hpackage, hname⟩ := Prod.mk.inj h
  exact Prod.ext hpackage (interfaceName_injective hname)

lemma interfaceName_ne (name : String) : interfaceName name ≠ name := by
  intro h
  have hlength := congrArg String.length h
  rw [interfaceName, String.length_append] at hlength
  exact absurd hlength (by simp)

namespace Conventions

variable {set : DeclarationSet} {c : Conventions} {d : TypeDeclaration} {l : InterfaceLink} {plan : InterfacePlan}
  {ds : List TypeDeclaration} {plans : List InterfacePlan}

lemma PlanOf.source_eq (h : c.PlanOf d l plan) : plan.source = d.ref := by
  obtain ⟨known, rfl⟩ := h.shape
  rfl

lemma PlanOf.key_eq (hc : ofDeclarations c.declarations = .ok c) (hd : c.IsDrafted d l) (h : c.PlanOf d l plan) :
    plan.ref.key = interfaceKey d.key := by
  obtain ⟨known, rfl⟩ := h.shape
  exact (DeclarationSet.link?_cases ((link?_eq hc hd.declared).symm.trans hd.linked)).2.1

lemma map_key_eq (hc : ofDeclarations c.declarations = .ok c)
    (h : List.Forall₂ (fun d plan => ∃ l, c.IsDrafted d l ∧ c.PlanOf d l plan) ds plans) :
    plans.map (·.ref.key) = (ds.map TypeDeclaration.key).map interfaceKey := by
  induction h with
  | nil => rfl
  | cons hfirst _ ih =>
    obtain ⟨l, hd, hplan⟩ := hfirst
    rw [List.map_cons, List.map_cons, List.map_cons, ih, hplan.key_eq hc hd]

lemma keys_nodup (hc : ofDeclarations c.declarations = .ok c) (hplans : c.interfacePlans = .ok plans) :
    (plans.map (·.ref.key)).Nodup := by
  obtain ⟨plans', hplans', hall⟩ := exists_interfacePlans hc
  cases hplans.symm.trans hplans'
  rw [map_key_eq hc hall]
  exact (c.declarations.keys_nodup.sublist (List.filter_sublist.map _)).map interfaceKey_injective

/-- No two interfaces that are made have one identity, and none has that of a declared interface or of the type
that it is made from. -/
theorem interfacePlans_fresh (hc : ofDeclarations set = .ok c) :
    ∃ plans, c.interfacePlans = .ok plans ∧ (plans.map (·.ref.key)).Nodup ∧ ∀ plan ∈ plans,
      plan.ref.key = interfaceKey plan.source.key ∧ plan.ref.key ≠ plan.source.key ∧
      ∀ d ∈ set.types, d.key = plan.ref.key → d.isInterface = false := by
  obtain rfl := (ofDeclarations_cases hc).1
  obtain ⟨plans, hplans, hall⟩ := exists_interfacePlans hc
  refine ⟨plans, hplans, keys_nodup hc hplans, fun plan hplan => ?_⟩
  obtain ⟨d, l, hd, hof⟩ := exists_planOf hall hplan
  have hkey := hof.key_eq hc hd
  rw [hof.source_eq]
  refine ⟨hkey, fun hsame => ?_, fun e he hek => ?_⟩
  · exact interfaceName_ne d.name (Prod.mk.inj (hkey.symm.trans hsame)).2
  · refine not_isInterface_of_synthesized hc hd.declared hd.linked hd.synthesized ?_
    have hinterface := (DeclarationSet.link?_cases ((link?_eq hc hd.declared).symm.trans hd.linked)).2.1
    rw [hinterface, ← DeclarationSet.get?_key he, hek, hkey]
    rfl

end Conventions

/-! An alarm and a siren that ask for their interfaces, in a package with a class of the one name and an interface of
the other. -/

namespace Alarms

open Documents (named)

def bell : TypeDeclaration where
  ref := named "IAlarm"

def alarm : TypeDeclaration where
  ref := named "Alarm"
  interfaces := [{ name := "IAlarm" }]

def signal : TypeDeclaration where
  ref := named "ISiren"
  isInterface := true

def siren : TypeDeclaration where
  ref := named "Siren"
  interfaces := [{ name := "ISiren" }]

def declarations : DeclarationSet where
  types := [bell, alarm, signal, siren]
  keys_nodup := by decide

def alarmLink : InterfaceLink where
  source := alarm.ref
  placeholder := { name := "IAlarm" }
  interface := named "IAlarm"
  viaBase := false
  handAuthored := false

def sirenLink : InterfaceLink where
  source := siren.ref
  placeholder := { name := "ISiren" }
  interface := named "ISiren"
  viaBase := false
  handAuthored := true

def conventions : Conventions where
  declarations
  links := [alarmLink, sirenLink]
  chains := declarations.types.map fun d => (d.key, [])

def plan : InterfacePlan where
  ref := named "IAlarm"
  source := alarm.ref

lemma ofDeclarations_eq : Conventions.ofDeclarations declarations = .ok conventions := by
  cbv

theorem siren_interface_kept :
    Conventions.ofDeclarations declarations = .ok conventions ∧ ∃ plans, conventions.interfacePlans = .ok plans ∧
      (plans.map (·.ref.key)).Nodup ∧ ∀ plan ∈ plans, plan.ref.key ≠ signal.key := by
  obtain ⟨plans, hplans, hnodup, hfresh⟩ := Conventions.interfacePlans_fresh ofDeclarations_eq
  refine ⟨ofDeclarations_eq, plans, hplans, hnodup, fun plan hplan hkey => ?_⟩
  have hclass : signal.isInterface = false := (hfresh plan hplan).2.2 signal (by decide) hkey.symm
  cases hclass

theorem alarm_interface_named_as_class :
    Conventions.ofDeclarations declarations = .ok conventions ∧ conventions.interfacePlans = .ok [plan] ∧
      bell ∈ declarations.types ∧ plan.ref.key = bell.key :=
  ⟨ofDeclarations_eq, by decide +kernel, List.mem_cons_self, rfl⟩

end Alarms

end Wiring
