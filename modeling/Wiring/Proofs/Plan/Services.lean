import Wiring.Proofs.Container.Supply
import Wiring.Proofs.Plan.Plain
import Wiring.Proofs.Plan.Walks

/-!
The services of a type. After the type itself these are the interfaces that it and its ancestors name and the parents
of these, each once. An own interface that is written as the base is left out of the walk and added at its end; what
it would lead to is walked from what the type lists.
-/

namespace Wiring

/-! A walk lists nothing twice. -/

section

variable {α : Type} {next : α → List α} {seen found : List α}

lemma foldlM_nodup {f : List α → α → Option (List α)} (hf : ∀ seen a found, seen.Nodup → f seen a = some found →
    found.Nodup) {roots : List α} (hseen : seen.Nodup) (h : roots.foldlM f seen = some found) : found.Nodup := by
  induction roots generalizing seen with
  | nil =>
    cases h
    exact hseen
  | cons a roots ih =>
    rw [List.foldlM_cons] at h
    obtain ⟨middle, hmiddle, h⟩ := Option.bind_eq_some_iff.1 h
    exact ih (hf seen a middle hseen hmiddle) h

lemma visit_nodup [DecidableEq α] {depth : Nat} {a : α} (hseen : seen.Nodup)
    (h : visit next depth seen a = some found) : found.Nodup := by
  induction depth generalizing seen a found with
  | zero =>
    rw [visit] at h
    split at h
    · cases h
      exact hseen
    · cases h
  | succ depth ih =>
    rw [visit] at h
    split at h
    · cases h
      exact hseen
    · rename_i ha
      refine foldlM_nodup (fun seen b found hseen hb => ih hseen hb) ?_ h
      refine List.nodup_append.2 ⟨hseen, List.nodup_singleton a, fun b hb b' hb' heq => ha ?_⟩
      rwa [← List.mem_singleton.1 hb', ← heq]

end

namespace Conventions

variable {c : Conventions} {d e : TypeDeclaration} {l : InterfaceLink} {r p : TypeRef} {plans : List InterfacePlan}
  {plan : InterfacePlan} {depth : Nat} {closure services : List TypeRef}

lemma interfaceClosure_nodup (h : c.interfaceClosure plans depth d = some closure) : closure.Nodup :=
  foldlM_nodup (fun _ _ _ hseen hvisit => visit_nodup hseen hvisit) List.nodup_nil h

/-! What a type names, and what is reached from it. -/

inductive Names (c : Conventions) (e : TypeDeclaration) : TypeRef → Prop
  | own {l : InterfaceLink} : c.link? e = some l → Names c e l.interface
  | base {r : TypeRef} : e.base = some r → (∀ l, c.link? e = some l → r ≠ l.placeholder) →
      c.isInterface r e.package → Names c e (c.bind r e.package)
  | listed {r : TypeRef} : r ∈ e.interfaces → (∀ l, c.link? e = some l → r ≠ l.placeholder) →
      Names c e (c.bind r e.package)

inductive Reachable (c : Conventions) (plans : List InterfacePlan) (d : TypeDeclaration) : TypeRef → Prop
  | named {r : TypeRef} : c.Names d r → Reachable c plans d r
  | inherited {a : Ancestor} {r : TypeRef} : a ∈ c.ancestors d → c.Names a.declaration r →
      Reachable c plans d (c.bind (r.substitute a.bindings) a.declaration.package)
  | declaredParent {r p : TypeRef} {e : TypeDeclaration} : Reachable c plans d r →
      c.declarations.find? r = some e → e.isInterface → (e.base = some p ∨ p ∈ e.interfaces) →
      Reachable c plans d (c.bind (p.substitute (e.ref.bindings r)) e.package)
  | plannedParent {r p : TypeRef} {plan : InterfacePlan} : Reachable c plans d r → plan ∈ plans →
      plan.ref.key = r.key → p ∈ plan.parents →
      Reachable c plans d (c.bind (p.substitute (plan.ref.bindings r)) plan.ref.package)

/-- A placeholder that is written as the base and listed once more stands for the same where it is listed. -/
def RepeatsPlaceholder (c : Conventions) (e : TypeDeclaration) : Prop :=
  ∀ l ∈ c.link? e, l.viaBase → l.placeholder ∈ e.interfaces → c.bind l.placeholder e.package = l.interface

instance (c : Conventions) (e : TypeDeclaration) : Decidable (c.RepeatsPlaceholder e) :=
  inferInstanceAs (Decidable (∀ l ∈ c.link? e, l.viaBase → l.placeholder ∈ e.interfaces →
    c.bind l.placeholder e.package = l.interface))

/-- The placeholder of a type has no arguments or those of the type. -/
def OwnArguments (c : Conventions) (d : TypeDeclaration) : Prop :=
  ∀ l ∈ c.link? d, l.placeholder.arguments = [] ∨ l.placeholder.arguments = d.ref.arguments

instance (c : Conventions) (d : TypeDeclaration) : Decidable (c.OwnArguments d) :=
  inferInstanceAs (Decidable (∀ l ∈ c.link? d,
    l.placeholder.arguments = [] ∨ l.placeholder.arguments = d.ref.arguments))

/-- What a type lists beside its placeholder has no other type parameters of the names of its own. -/
def OwnParameters (c : Conventions) (d : TypeDeclaration) : Prop :=
  ∀ l ∈ c.link? d, l.viaBase → l.synthesized → ∀ r ∈ d.interfaces, r.substitute (d.ref.bindings d.ref) = r

instance (c : Conventions) (d : TypeDeclaration) : Decidable (c.OwnParameters d) :=
  inferInstanceAs (Decidable (∀ l ∈ c.link? d, l.viaBase → l.synthesized → ∀ r ∈ d.interfaces,
    r.substitute (d.ref.bindings d.ref) = r))

lemma mem_interfaceParents : p ∈ e.interfaceParents ↔ e.base = some p ∨ p ∈ e.interfaces := by
  rw [TypeDeclaration.interfaceParents]
  split
  · rename_i hbase
    simp [hbase]
  · rename_i base hbase
    rw [hbase, Option.some.injEq]
    split
    · rename_i hmem
      exact ⟨Or.inr, fun h => h.elim (fun heq => heq ▸ hmem) id⟩
    · rw [List.mem_cons, eq_comm]

/-! What the walk begins with. -/

lemma interface_arguments (hc : ofDeclarations c.declarations = .ok c) (he : e ∈ c.declarations.types)
    (hl : c.link? e = some l) (harguments : c.OwnArguments e) : l.interface.arguments = e.ref.arguments := by
  have hown := harguments l hl
  have hlink := (link?_eq hc he).symm.trans hl
  rw [DeclarationSet.link?] at hlink
  split at hlink
  · cases hlink
  obtain ⟨w, -, rfl⟩ := Option.map_eq_some_iff.1 hlink
  change (if w.1.arguments = [] then e.ref.arguments else w.1.arguments) = e.ref.arguments
  split
  · rfl
  · rename_i hne
    exact hown.resolve_left hne

lemma placeholder_of_base (hc : ofDeclarations c.declarations = .ok c) (he : e ∈ c.declarations.types)
    (hl : c.link? e = some l) : l.viaBase = true ↔ e.base = some l.placeholder := by
  have hlink := (link?_eq hc he).symm.trans hl
  rw [DeclarationSet.link?] at hlink
  split at hlink
  · cases hlink
  obtain ⟨w, hw, rfl⟩ := Option.map_eq_some_iff.1 hlink
  have hmem := List.mem_of_find?_eq_some hw
  have hplaceholder := List.find?_some hw
  rw [TypeDeclaration.writtenRefs] at hw hmem
  change w.2 = true ↔ e.base = some w.1
  cases hbase : e.base with
  | none =>
    rw [hbase] at hmem
    obtain ⟨listed, -, rfl⟩ := List.mem_map.1 (by simpa using hmem)
    simp
  | some base =>
    rw [hbase] at hw
    simp only [Option.toList_some, List.map_cons, List.map_nil, List.singleton_append] at hw
    rw [List.find?_cons] at hw
    split at hw
    · cases hw
      simp
    · rename_i hb
      obtain ⟨listed, -, rfl⟩ := List.mem_map.1 (List.mem_of_find?_eq_some hw)
      simp only [Bool.false_eq_true, Option.some.injEq, false_iff]
      rintro rfl
      cases hb.symm.trans hplaceholder

lemma names_of_mem_directInterfaces (hc : ofDeclarations c.declarations = .ok c) (he : e ∈ c.declarations.types)
    (hrepeats : c.RepeatsPlaceholder e) {withOwn : Bool} (hr : r ∈ c.directInterfaces e withOwn) : c.Names e r := by
  rw [directInterfaces, baseInterfaces] at hr
  obtain hr | hr := List.mem_append.1 hr
  · split at hr
    · rename_i l hl
      split at hr
      · rw [List.mem_singleton.1 hr]
        exact .own (Option.filter_eq_some_iff.1 hl).1
      · cases hr
    · rename_i hnone
      obtain ⟨base, hbase, rfl⟩ := List.mem_map.1 hr
      obtain ⟨hbase, hinterface⟩ := List.mem_filter.1 hbase
      have hbase := Option.mem_toList.1 hbase
      refine .base hbase (fun l hl heq => ?_) hinterface
      have hvia := (placeholder_of_base hc he hl).2 (heq ▸ hbase)
      rw [hl, Option.filter_some, if_pos hvia] at hnone
      cases hnone
  · obtain ⟨listed, hlisted, rfl⟩ := List.mem_map.1 hr
    rw [listedInterface]
    split
    · rename_i l hl
      have hlink := (Option.filter_eq_some_iff.1 hl).1
      rw [bind_of_package_eq (interface_package hc he hlink)]
      exact .own hlink
    · rename_i hnone
      by_cases hown : ∃ l, c.link? e = some l ∧ listed = l.placeholder
      · obtain ⟨l, hl, rfl⟩ := hown
        have hvia : l.viaBase = true := by
          rw [hl, Option.filter_some] at hnone
          by_contra hnot
          rw [if_pos (by simpa using hnot)] at hnone
          cases hnone
        rw [hrepeats l hl hvia hlisted]
        exact .own hl
      · exact .listed hlisted fun l hl heq => hown ⟨l, hl, heq⟩

lemma mem_directInterfaces_of_names (hc : ofDeclarations c.declarations = .ok c) (he : e ∈ c.declarations.types)
    (h : c.Names e r) : r ∈ c.directInterfaces e true := by
  cases h with
  | own hl => exact interface_mem_directInterfaces hc he hl
  | @base r hbase hnot hinterface =>
    have hnone : (c.link? e).filter (·.viaBase) = none := by
      refine Option.filter_eq_none_iff.2 fun l hl hvia => ?_
      have hplaceholder := (placeholder_of_base hc he hl).1 hvia
      exact hnot l hl (Option.some.inj (hbase.symm.trans hplaceholder))
    rw [directInterfaces, baseInterfaces, hnone]
    refine List.mem_append_left _ (List.mem_map_of_mem (List.mem_filter.2 ⟨?_, hinterface⟩))
    exact Option.mem_toList.2 hbase
  | @listed r hlisted hnot =>
    have hentry : c.listedInterface e r = c.bind r e.package := by
      have hnone : ((c.link? e).filter fun l => !l.viaBase && r = l.placeholder) = none := by
        refine Option.filter_eq_none_iff.2 fun l hl hboth => hnot l hl ?_
        simpa using (Bool.and_eq_true_iff.1 hboth).2
      rw [listedInterface, hnone]
    rw [← hentry]
    exact List.mem_append_right _ (List.mem_map_of_mem hlisted)

lemma directInterfaces_without_own (h : r ∈ c.directInterfaces e true) :
    r ∈ c.directInterfaces e false ∨ ∃ l, c.link? e = some l ∧ l.viaBase ∧ r = l.interface := by
  rw [directInterfaces] at h ⊢
  obtain hr | hr := List.mem_append.1 h
  · rw [baseInterfaces] at hr ⊢
    split at hr
    · rename_i l hl
      obtain ⟨hlink, hvia⟩ := Option.filter_eq_some_iff.1 hl
      exact Or.inr ⟨l, hlink, hvia, List.mem_singleton.1 hr⟩
    · exact Or.inl (List.mem_append_left _ hr)
  · exact Or.inl (List.mem_append_right _ hr)

lemma substitute_bind {m : Bindings} (h : r.substitute m = r) (package : String) :
    (c.bind r package).substitute m = c.bind r package := by
  obtain ⟨p, n, as, t⟩ := r
  rw [bind]
  split
  · rename_i hpending
    have ht : t = false := by
      have hpending := (Bool.and_eq_true_iff.1 hpending).1
      rw [TypeRef.isPending, Bool.and_eq_true_iff, Bool.not_eq_true'] at hpending
      exact hpending.2
    subst ht
    rw [TypeRef.substitute, TypeRef.mk.injEq] at h
    rw [TypeRef.inPackage, TypeRef.substitute, h.2.2.1]
  · exact h

lemma directInterfaces_of_viaBase (hl : c.link? e = some l) (hvia : l.viaBase) :
    c.directInterfaces e false = e.interfaces.map (c.bind · e.package) := by
  have hbase : (c.link? e).filter (·.viaBase) = some l := by rw [hl, Option.filter_some, if_pos hvia]
  have hlisted : ∀ r, ((c.link? e).filter fun l => !l.viaBase && r = l.placeholder) = none := by
    intro r
    rw [hl, Option.filter_some, if_neg (by simp [hvia])]
  rw [directInterfaces, baseInterfaces, hbase]
  refine (List.nil_append _).trans (List.map_congr_left fun r _ => ?_)
  rw [listedInterface, hlisted]

/-! Plans told apart by the interface that they are for. -/

lemma plan_eq_of_key_eq (hc : ofDeclarations c.declarations = .ok c)
    (hall : List.Forall₂ (fun d plan => ∃ l, c.IsDrafted d l ∧ c.PlanOf d l plan)
      (c.declarations.types.filter c.synthesizesInterface) plans) {plan' : InterfacePlan} (h : plan ∈ plans)
    (h' : plan' ∈ plans) (hkey : plan.ref.key = plan'.ref.key) : plan = plan' := by
  have hnodup : (plans.map (·.source)).Nodup := by
    have hkeys : ((c.declarations.types.filter c.synthesizesInterface).map TypeDeclaration.key).Nodup :=
      c.declarations.keys_nodup.sublist (List.filter_sublist.map _)
    refine List.Nodup.of_map TypeRef.key ?_
    rwa [map_source_eq hall, List.map_map]
  obtain ⟨d, l, hd, ⟨known, hknown⟩, -⟩ := exists_planOf hall h
  obtain ⟨d', l', hd', ⟨known', hknown'⟩, -⟩ := exists_planOf hall h'
  have hinterface : l.interface.key = l'.interface.key := by
    rw [hknown, hknown'] at hkey
    exact hkey
  have heq := (drafted?_iff hc).2 ⟨hd, hinterface⟩
  rw [(drafted?_iff hc).2 ⟨hd', rfl⟩] at heq
  cases heq
  exact List.inj_on_of_nodup_map hnodup h h' (by rw [hknown, hknown']; rfl)

lemma mem_parentsOf_iff (hc : ofDeclarations c.declarations = .ok c)
    (hall : List.Forall₂ (fun d plan => ∃ l, c.IsDrafted d l ∧ c.PlanOf d l plan)
      (c.declarations.types.filter c.synthesizesInterface) plans) {q : TypeRef} :
    q ∈ c.parentsOf plans r ↔
      (∃ e p, c.declarations.find? r = some e ∧ e.isInterface ∧ (e.base = some p ∨ p ∈ e.interfaces) ∧
        q = c.bind (p.substitute (e.ref.bindings r)) e.package) ∨
      ∃ plan p, plan ∈ plans ∧ plan.ref.key = r.key ∧ p ∈ plan.parents ∧
        q = c.bind (p.substitute (plan.ref.bindings r)) plan.ref.package := by
  rw [parentsOf, List.mem_append]
  refine or_congr ?_ ?_
  · constructor
    · intro hq
      split at hq
      · rename_i e he
        obtain ⟨he, hinterface⟩ := Option.filter_eq_some_iff.1 he
        obtain ⟨p, hp, rfl⟩ := List.mem_map.1 hq
        exact ⟨e, p, he, hinterface, mem_interfaceParents.1 hp, rfl⟩
      · cases hq
    · rintro ⟨e, p, he, hinterface, hp, rfl⟩
      rw [he, Option.filter_some, if_pos hinterface]
      exact List.mem_map.2 ⟨p, mem_interfaceParents.2 hp, rfl⟩
  · constructor
    · intro hq
      split at hq
      · rename_i plan hplan
        obtain ⟨p, hp, rfl⟩ := List.mem_map.1 hq
        exact ⟨plan, p, List.mem_of_find?_eq_some hplan, by simpa using List.find?_some hplan, hp, rfl⟩
      · cases hq
    · rintro ⟨plan, p, hplan, hkey, hp, rfl⟩
      cases hfind : plans.find? (·.ref.key = r.key) with
      | none => exact absurd (decide_eq_true hkey) (List.find?_eq_none.1 hfind plan hplan)
      | some other =>
        have hother : other.ref.key = r.key := by simpa using List.find?_some hfind
        obtain rfl := plan_eq_of_key_eq hc hall (List.mem_of_find?_eq_some hfind) hplan (hother.trans hkey.symm)
        exact List.mem_map.2 ⟨p, hp, rfl⟩

/-! The services. -/

lemma registeredServices_cases (hc : ofDeclarations c.declarations = .ok c) (hd : d ∈ c.declarations.types)
    (h : c.registeredServices plans depth d = some services) :
    ∃ closure rest, c.interfaceClosure plans depth d = some closure ∧ services = d.ref :: rest ∧ rest.Nodup ∧
      ∀ r, r ∈ rest ↔ r ∈ closure ∨ ∃ l, c.link? d = some l ∧ l.viaBase ∧ r = l.interface := by
  obtain ⟨closure, hclosure, h⟩ := Option.bind_eq_some_iff.1 h
  have hnodup := interfaceClosure_nodup hclosure
  refine ⟨closure, ?_⟩
  split at h
  · rename_i l hl
    obtain ⟨hlink, hvia⟩ := Option.filter_eq_some_iff.1 hl
    have hown : ∀ r, (∃ l, c.link? d = some l ∧ l.viaBase ∧ r = l.interface) ↔ r = l.interface := by
      refine fun r => ⟨?_, fun heq => ⟨l, hlink, hvia, heq⟩⟩
      rintro ⟨l', hl', -, rfl⟩
      rw [Option.some.inj (hlink.symm.trans hl')]
    by_cases hmem : l.interface ∈ d.ref :: closure
    · cases h.symm.trans (congrArg some (if_pos hmem))
      refine ⟨closure, hclosure, rfl, hnodup, fun r => ?_⟩
      rw [hown, or_iff_left_of_imp]
      rintro rfl
      refine (List.mem_cons.1 hmem).resolve_left fun heq => ?_
      have hname := congrArg Prod.snd (DeclarationSet.link?_cases ((link?_eq hc hd).symm.trans hlink)).2.1
      rw [heq] at hname
      have hlength := congrArg String.length hname
      rw [TypeRef.key, interfaceName, String.length_append] at hlength
      exact absurd hlength (by simp)
    · cases h.symm.trans (congrArg some (if_neg hmem))
      rw [List.mem_cons, not_or] at hmem
      refine ⟨closure ++ [l.interface], hclosure, rfl, ?_, fun r => by rw [hown, List.mem_append, List.mem_singleton]⟩
      refine List.nodup_append.2 ⟨hnodup, List.nodup_singleton _, fun r hr r' hr' heq => hmem.2 ?_⟩
      rwa [← List.mem_singleton.1 hr', ← heq]
  · rename_i hnone
    cases h
    refine ⟨closure, hclosure, rfl, hnodup, fun r => ⟨Or.inl, ?_⟩⟩
    rintro (hr | ⟨l, hl, hvia, -⟩)
    · exact hr
    · rw [hl, Option.filter_some, if_pos hvia] at hnone
      cases hnone

variable (hc : ofDeclarations c.declarations = .ok c)
  (hall : List.Forall₂ (fun d plan => ∃ l, c.IsDrafted d l ∧ c.PlanOf d l plan)
    (c.declarations.types.filter c.synthesizesInterface) plans)
include hc hall

lemma Reachable.parent (h : c.Reachable plans d r) (hp : p ∈ c.parentsOf plans r) : c.Reachable plans d p := by
  obtain ⟨e, p', he, hinterface, hp', rfl⟩ | ⟨plan, p', hplan, hkey, hp', rfl⟩ := (mem_parentsOf_iff hc hall).1 hp
  · exact .declaredParent h he hinterface hp'
  · exact .plannedParent h hplan hkey hp'

lemma reachable_of_mem_closure (hd : d ∈ c.declarations.types) (hrepeats : ∀ e ∈ c.lineage d, c.RepeatsPlaceholder e)
    (hclosure : c.interfaceClosure plans depth d = some closure) (hr : r ∈ closure) : c.Reachable plans d r := by
  refine closure_induction hc hd hclosure (fun r hr => ?_) (fun a ha r hr => ?_)
    (fun r q hr hq => hr.parent hc hall hq) hr
  · exact .named (names_of_mem_directInterfaces hc hd (hrepeats d List.mem_cons_self) hr)
  · have hlineage : a.declaration ∈ c.lineage d := List.mem_cons_of_mem d (List.mem_map_of_mem ha)
    exact .inherited ha (names_of_mem_directInterfaces hc (mem_types_of_mem_ancestors hc hd ha)
      (hrepeats _ hlineage) hr)

lemma parentsOf_own_subset_closure (hd : d ∈ c.declarations.types) (harguments : c.OwnArguments d)
    (hparameters : c.OwnParameters d) (hclosure : c.interfaceClosure plans depth d = some closure)
    (hl : c.link? d = some l) (hvia : l.viaBase) : c.parentsOf plans l.interface ⊆ closure := by
  intro q hq
  -- the walk goes on from an interface written by hand; the plan of any other has for parents what the type lists
  cases hauthored : l.handAuthored with
  | true =>
    refine (interfaceClosure_sweeps hclosure).entered (List.mem_append_left _ ?_)
    rw [ownInterfaces, hl, Option.filter_some, if_pos (by rw [hvia, hauthored, Bool.and_self])]
    exact List.mem_append_right _ hq
  | false =>
    have hsynthesized : l.synthesized := by rw [InterfaceLink.synthesized, hauthored, Bool.not_false]
    have hdrafted : c.IsDrafted d l := ⟨hd, hl, hsynthesized⟩
    obtain ⟨e, p, he, hinterface, -⟩ | ⟨plan, p, hplan, hkey, hp, rfl⟩ := (mem_parentsOf_iff hc hall).1 hq
    · cases hinterface.symm.trans (not_isInterface_of_synthesized hc hd hl hsynthesized he)
    · obtain ⟨d', l', hd', ⟨known, rfl⟩, -⟩ := exists_planOf hall hplan
      have heq := (drafted?_iff hc).2 ⟨hd', hkey⟩
      rw [(drafted?_iff hc).2 ⟨hdrafted, rfl⟩] at heq
      cases heq
      have hroot : c.declarations.classBase? d = none := by
        rw [DeclarationSet.classBase?]
        split
        · rfl
        · rw [← link?_eq hc hd, hl, Option.any_some, if_pos hvia]
      have hfirst : c.baseParent? d = none := by
        obtain ⟨-, hnil⟩ | ⟨r, b, rest, hb, -⟩ := ancestors_cases hc hd
        · rw [baseParent?, draftBase?, hnil]
          rfl
        · cases hroot.symm.trans hb
      have hdirect : p ∈ c.directInterfaces d false := by
        obtain hbase | hdirect := draftParents_cases hp
        · cases hfirst.symm.trans hbase
        · exact hdirect
      have hkept : p.substitute (d.ref.bindings d.ref) = p := by
        rw [directInterfaces_of_viaBase hl hvia] at hdirect
        obtain ⟨r, hr, rfl⟩ := List.mem_map.1 hdirect
        exact substitute_bind (hparameters l hl hvia hsynthesized r hr) d.package
      have hbindings : (draftRef d l).bindings l.interface = d.ref.bindings d.ref := by
        have hown : l.interface.arguments = d.ref.arguments := interface_arguments hc hd hl harguments
        rw [TypeRef.bindings, TypeRef.bindings, hown]
        rfl
      change c.bind (p.substitute ((draftRef d l).bindings l.interface)) l.interface.package ∈ closure
      rw [hbindings, hkept, interface_package hc hd hl, bind_of_mem_directInterfaces hc hd hdirect]
      exact directInterfaces_subset_closure hc hd hclosure hdirect

lemma mem_of_reachable (hd : d ∈ c.declarations.types) (harguments : c.OwnArguments d)
    (hparameters : c.OwnParameters d) (hclosure : c.interfaceClosure plans depth d = some closure)
    (h : c.Reachable plans d r) :
    r ∈ closure ∨ ∃ l, c.link? d = some l ∧ l.viaBase ∧ r = l.interface := by
  have hparent : ∀ {r p}, (r ∈ closure ∨ ∃ l, c.link? d = some l ∧ l.viaBase ∧ r = l.interface) →
      p ∈ c.parentsOf plans r → p ∈ closure := by
    rintro r p (hr | ⟨l, hl, hvia, rfl⟩) hp
    · exact parentsOf_subset hclosure hr hp
    · exact parentsOf_own_subset_closure hc hall hd harguments hparameters hclosure hl hvia hp
  induction h with
  | named hr =>
    obtain hr | hown := directInterfaces_without_own (mem_directInterfaces_of_names hc hd hr)
    · exact Or.inl (directInterfaces_subset_closure hc hd hclosure hr)
    · exact Or.inr hown
  | inherited ha hr =>
    exact Or.inl (ancestorInterface_mem_closure hclosure ha
      (mem_directInterfaces_of_names hc (mem_types_of_mem_ancestors hc hd ha) hr))
  | declaredParent _ he hinterface hp ih =>
    exact Or.inl (hparent ih ((mem_parentsOf_iff hc hall).2 (Or.inl ⟨_, _, he, hinterface, hp, rfl⟩)))
  | plannedParent _ hplan hkey hp ih =>
    exact Or.inl (hparent ih ((mem_parentsOf_iff hc hall).2 (Or.inr ⟨_, _, hplan, hkey, hp, rfl⟩)))

omit hc hall

variable {st : Settings} {initializers : List InitializerPlan} {graph : RegistrationGraph}

lemma map_service_serviceEntries {lifetime : Lifetime} {entries : List ServiceEntry}
    (h : c.serviceEntries plans depth d lifetime = some entries) :
    c.registeredServices plans depth d = some (entries.map (·.service)) := by
  obtain ⟨services, hservices, h⟩ := Option.bind_eq_some_iff.1 h
  cases h
  rw [hservices, List.map_map]
  exact congrArg some (List.map_id services).symm

lemma filter_implementation_eq_nil {entries : List ServiceEntry}
    (h : ∀ entry ∈ entries, entry.implementation.key ≠ d.key) : entries.filter (·.implementation = d.ref) = [] :=
  List.filter_eq_nil_iff.2 fun entry hentry heq => h entry hentry (congrArg TypeRef.key (of_decide_eq_true heq))

lemma services_of_graphOf {ds : List TypeDeclaration} (hnodup : (ds.map TypeDeclaration.key).Nodup)
    (h : c.graphOf st plans initializers depth ds = .ok graph) (hd : d ∈ ds) (hlifetime : (st.lifetime? d).isSome) :
    c.registeredServices plans depth d =
      some ((graph.services.filter (·.implementation = d.ref)).map (·.service)) := by
  induction ds generalizing graph with
  | nil => cases hd
  | cons e ds ih =>
    rw [List.map_cons, List.nodup_cons] at hnodup
    obtain ⟨hnone, h⟩ | ⟨lifetime, entries, plan, rest, hsome, hentries, -, hrest, rfl⟩ := graphOf_cons h
    · obtain rfl | hd := List.mem_cons.1 hd
      · rw [hnone] at hlifetime
        cases hlifetime
      · exact ih hnodup.2 h hd
    · have himplementation : ∀ entry ∈ entries, entry.implementation = e.ref :=
        fun entry hentry => implementation_of_mem_serviceEntries hentries hentry
      rw [List.filter_append]
      obtain rfl | hd := List.mem_cons.1 hd
      · have hown : entries.filter (·.implementation = d.ref) = entries :=
          List.filter_eq_self.2 fun entry hentry => decide_eq_true (himplementation entry hentry)
        have hothers : rest.services.filter (·.implementation = d.ref) = [] := by
          refine filter_implementation_eq_nil fun entry hentry hkey => hnodup.1 ?_
          obtain ⟨f, hf, href⟩ := exists_of_mem_services hrest hentry
          exact List.mem_map.2 ⟨f, hf, (congrArg TypeRef.key href).symm.trans hkey⟩
        rw [hown, hothers, List.append_nil]
        exact map_service_serviceEntries hentries
      · have hothers : entries.filter (·.implementation = d.ref) = [] := by
          refine filter_implementation_eq_nil fun entry hentry hkey => hnodup.1 ?_
          exact List.mem_map.2 ⟨d, hd, hkey.symm.trans (congrArg TypeRef.key (himplementation entry hentry))⟩
        rw [hothers, List.nil_append]
        exact ih hnodup.2 hrest hd

end Conventions

lemma Design.planOf_of_ofDeclarations {st : Settings} {depth : Nat} {set : DeclarationSet} {g : Design}
    (hg : Design.ofDeclarations st depth set = .ok g) :
    Conventions.ofDeclarations g.conventions.declarations = .ok g.conventions ∧
      g.conventions.graphOf st g.interfaces g.initializers depth set.types = .ok g.graph ∧
      g.conventions.declarations = set ∧
      List.Forall₂ (fun d plan => ∃ l, g.conventions.IsDrafted d l ∧ g.conventions.PlanOf d l plan)
        (set.types.filter g.conventions.synthesizesInterface) g.interfaces := by
  obtain ⟨hc, hplans, -, hgraph⟩ := Design.ofDeclarations_eq_ok.1 hg
  obtain ⟨rfl, -⟩ := Conventions.ofDeclarations_cases hc
  obtain ⟨plans, hplans', hall⟩ := Conventions.exists_interfacePlans hc
  cases hplans.symm.trans hplans'
  exact ⟨hc, hgraph, rfl, hall⟩

/-- After itself a type is registered, once for each, for what is reached from it. -/
theorem Design.services_reachable {st : Settings} {depth : Nat} {set : DeclarationSet} {g : Design}
    (hg : Design.ofDeclarations st depth set = .ok g) {d : TypeDeclaration} (hd : d ∈ set.types)
    (hlifetime : (st.lifetime? d).isSome) (harguments : g.conventions.OwnArguments d)
    (hparameters : g.conventions.OwnParameters d)
    (hrepeats : ∀ e ∈ g.conventions.lineage d, g.conventions.RepeatsPlaceholder e) :
    ∃ services, (g.graph.services.filter (·.implementation = d.ref)).map (·.service) = d.ref :: services ∧
      services.Nodup ∧ ∀ r, r ∈ services ↔ g.conventions.Reachable g.interfaces d r := by
  obtain ⟨hc, hgraph, rfl, hall⟩ := Design.planOf_of_ofDeclarations hg
  have hservices := Conventions.services_of_graphOf g.conventions.declarations.keys_nodup hgraph hd hlifetime
  obtain ⟨closure, rest, hclosure, hrest, hnodup, hmem⟩ := Conventions.registeredServices_cases hc hd hservices
  refine ⟨rest, hrest, hnodup, fun r => (hmem r).trans ⟨?_, ?_⟩⟩
  · rintro (hr | ⟨l, hl, -, rfl⟩)
    · exact Conventions.reachable_of_mem_closure hc hall hd hrepeats hclosure hr
    · exact .named (.own hl)
  · exact Conventions.mem_of_reachable hc hall hd harguments hparameters hclosure

/-! Vaults, each with an interface of its own. -/

namespace Vaults

open Conventions
open Orders (named)
open Stores (element applied settings)

def vault (base : Option TypeRef) (interfaces : List TypeRef) : TypeDeclaration where
  ref := applied "Vault" element
  base
  interfaces
  annotations := [{ name := "Transient" }]

def placeholder : TypeRef :=
  { name := "IVault" }

def store : TypeDeclaration where
  ref := applied "IStore" { name := "K", isTypeParameter := true }
  interfaces := [named "ICloseable"]
  isInterface := true

def link (placeholder : TypeRef) (viaBase handAuthored : Bool) : InterfaceLink where
  source := applied "Vault" element
  placeholder
  interface := applied "IVault" element
  viaBase
  handAuthored

def design (types : DeclarationSet) (links : List InterfaceLink) (interfaces : List InterfacePlan)
    (services : List TypeRef) : Design where
  conventions :=
    { declarations := types
      links
      chains := types.types.map fun d => (d.key, []) }
  interfaces
  initializers := Conventions.initializerPlans
    { declarations := types, links, chains := types.types.map fun d => (d.key, []) } settings
  graph := { services := services.map fun service =>
    { service, implementation := applied "Vault" element, lifetime := .transient } }

def plan (parents : List TypeRef) : InterfacePlan where
  ref := applied "IVault" element
  source := applied "Vault" element
  parents
  members := []

def storeVault : TypeDeclaration :=
  vault (some placeholder) [applied "IStore" element]

def stores : DeclarationSet where
  types := [store, storeVault]
  keys_nodup := by decide

def storesDesign : Design :=
  design stores [link placeholder true false] [plan [applied "IStore" element]]
    [storeVault.ref, applied "IStore" element, named "ICloseable", applied "IVault" element]

lemma ofDeclarations_stores : Design.ofDeclarations settings 3 stores = .ok storesDesign := by
  have hc : Conventions.ofDeclarations stores = .ok storesDesign.conventions := by cbv
  exact Design.ofDeclarations_eq_ok.2 ⟨hc, by decide +kernel, rfl, by decide +kernel⟩

theorem closeable_registered :
    storesDesign.conventions.Reachable storesDesign.interfaces storeVault (named "ICloseable") ∧
      named "ICloseable" ∈
        (storesDesign.graph.services.filter (·.implementation = storeVault.ref)).map (·.service) := by
  obtain ⟨services, hservices, -, hmem⟩ := Design.services_reachable ofDeclarations_stores (d := storeVault)
    (by decide) (by decide) (by decide) (by decide) (by decide)
  have hservice : named "ICloseable" ∈ services := by
    have hrest : (storesDesign.graph.services.filter (·.implementation = storeVault.ref)).map (·.service) =
        storeVault.ref :: [applied "IStore" element, named "ICloseable", applied "IVault" element] := by decide
    cases hservices.symm.trans hrest
    decide
  exact ⟨(hmem _).1 hservice, hservices ▸ List.mem_cons_of_mem _ hservice⟩

def sharedStore : TypeRef :=
  applied "IStore" { package := "shared", name := "T", isTypeParameter := true }

def sharedVault : TypeDeclaration :=
  vault (some placeholder) [sharedStore]

def listedVault : TypeDeclaration :=
  vault none [placeholder, sharedStore]

def shared : DeclarationSet where
  types := [sharedVault]
  keys_nodup := by decide

def listed : DeclarationSet where
  types := [listedVault]
  keys_nodup := by decide

def sharedDesign : Design :=
  design shared [link placeholder true false] [plan [sharedStore]]
    [sharedVault.ref, sharedStore, applied "IVault" element]

def listedDesign : Design :=
  design listed [link placeholder false false] [plan [sharedStore]]
    [listedVault.ref, applied "IVault" element, applied "IStore" element, sharedStore]

lemma ofDeclarations_shared : Design.ofDeclarations settings 3 shared = .ok sharedDesign := by
  have hc : Conventions.ofDeclarations shared = .ok sharedDesign.conventions := by cbv
  exact Design.ofDeclarations_eq_ok.2 ⟨hc, by decide +kernel, rfl, by decide +kernel⟩

lemma ofDeclarations_listed : Design.ofDeclarations settings 3 listed = .ok listedDesign := by
  have hc : Conventions.ofDeclarations listed = .ok listedDesign.conventions := by cbv
  exact Design.ofDeclarations_eq_ok.2 ⟨hc, by decide +kernel, rfl, by decide +kernel⟩

def vaultInterface : TypeDeclaration where
  ref := applied "IVault" { name := "K", isTypeParameter := true }
  isInterface := true

def repeatedVault : TypeDeclaration :=
  vault (some placeholder) [placeholder]

def repeated : DeclarationSet where
  types := [vaultInterface, repeatedVault]
  keys_nodup := by decide

def repeatedDesign : Design :=
  design repeated [link placeholder true true] [] [repeatedVault.ref, named "IVault", applied "IVault" element]

lemma ofDeclarations_repeated : Design.ofDeclarations settings 3 repeated = .ok repeatedDesign := by
  have hc : Conventions.ofDeclarations repeated = .ok repeatedDesign.conventions := by cbv
  exact Design.ofDeclarations_eq_ok.2 ⟨hc, by decide +kernel, rfl, by decide +kernel⟩

lemma eq_of_reachable_repeated {r : TypeRef}
    (h : repeatedDesign.conventions.Reachable repeatedDesign.interfaces repeatedVault r) :
    r = applied "IVault" element := by
  have hlink : repeatedDesign.conventions.link? repeatedVault = some (link placeholder true true) := by decide
  induction h with
  | named hr =>
    cases hr with
    | own hl =>
      cases hlink.symm.trans hl
      rfl
    | base hbase hnot =>
      cases hbase
      exact absurd rfl (hnot _ hlink)
    | listed hlisted hnot => exact absurd (List.mem_singleton.1 hlisted) (hnot _ hlink)
  | inherited ha =>
    have hnone : repeatedDesign.conventions.ancestors repeatedVault = [] := by decide
    rw [hnone] at ha
    cases ha
  | declaredParent _ he _ hp ih =>
    subst ih
    have hfind : repeatedDesign.conventions.declarations.find? (applied "IVault" element) = some vaultInterface := by
      decide
    cases hfind.symm.trans he
    rcases hp with hp | hp <;> cases hp
  | plannedParent _ hplan => cases hplan

theorem vault_services :
    (Design.ofDeclarations settings 3 shared = .ok sharedDesign ∧ (settings.lifetime? sharedVault).isSome ∧
        sharedDesign.conventions.OwnArguments sharedVault ∧
        sharedDesign.conventions.Reachable sharedDesign.interfaces sharedVault (applied "IStore" element) ∧
        applied "IStore" element ∉
          (sharedDesign.graph.services.filter (·.implementation = sharedVault.ref)).map (·.service)) ∧
      (Design.ofDeclarations settings 3 listed = .ok listedDesign ∧
        applied "IStore" element ∈
          (listedDesign.graph.services.filter (·.implementation = listedVault.ref)).map (·.service)) ∧
      Design.ofDeclarations settings 3 repeated = .ok repeatedDesign ∧ (settings.lifetime? repeatedVault).isSome ∧
        repeatedDesign.conventions.OwnArguments repeatedVault ∧
        named "IVault" ∈
          (repeatedDesign.graph.services.filter (·.implementation = repeatedVault.ref)).map (·.service) ∧
        ¬repeatedDesign.conventions.Reachable repeatedDesign.interfaces repeatedVault (named "IVault") := by
  have hlink : sharedDesign.conventions.link? sharedVault = some (link placeholder true false) := by decide
  have hown : sharedDesign.conventions.Reachable sharedDesign.interfaces sharedVault (applied "IVault" element) :=
    .named (.own hlink)
  have hstore : sharedDesign.conventions.Reachable sharedDesign.interfaces sharedVault (applied "IStore" element) := by
    have hbound : sharedDesign.conventions.bind
        (sharedStore.substitute ((plan [sharedStore]).ref.bindings (applied "IVault" element))) "app" =
          applied "IStore" element := by
      decide
    rw [← hbound]
    exact hown.plannedParent (List.mem_singleton_self (plan [sharedStore])) rfl (List.mem_singleton_self sharedStore)
  refine ⟨⟨ofDeclarations_shared, by decide, by decide, hstore, by decide⟩, ⟨ofDeclarations_listed, by decide⟩,
    ofDeclarations_repeated, by decide, by decide, by decide, fun h => ?_⟩
  exact absurd (eq_of_reachable_repeated h) (by decide)

end Vaults

end Wiring
