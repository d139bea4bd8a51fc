import Wiring.Proofs.Plan.Plain

/-!
Making plans comes to an end, whatever types and interfaces ask for in circles. A call that ends within some steps ends
the same way with more of them, so the plans do not depend on how many steps are allowed.
-/

namespace Wiring

namespace Drafting

variable {α β : Type} {s s₁ s' : Drafts}

lemma mapM_cons_of_eq_ok {f : α → Drafting β} {a : α} {as : List α} {b : β} {bs : List β}
    (h : f a s = .ok (b, s₁)) (hs : as.mapM f s₁ = .ok (bs, s')) : (a :: as).mapM f s = .ok (b :: bs, s') := by
  rw [List.mapM_cons, bind_eq h, bind_eq hs]
  rfl

lemma gather_cons_of_eq_ok {f : List TypeKey → TypeRef → Drafting Signatures} {visited middle visited' : List TypeKey}
    {r : TypeRef} {rs : List TypeRef} {first rest : List String} (h : f visited r s = .ok ((first, middle), s₁))
    (hs : gather f middle rs s₁ = .ok ((rest, visited'), s')) :
    gather f visited (r :: rs) s = .ok ((first ++ rest, visited'), s') := by
  rw [gather, bind_eq h]
  change (gather f middle rs >>= _) s₁ = _
  rw [bind_eq hs]
  rfl

end Drafting

namespace Conventions

open Drafting

variable {c : Conventions} {n n' : Nat} {d : TypeDeclaration} {l : InterfaceLink} {s s' s₁ s₂ s₃ : Drafts}
  {plan : InterfacePlan} {visited visited' : List TypeKey} {found : List String} {r : TypeRef} {m : Bindings}

structure Persists (c : Conventions) (n : Nat) : Prop where
  planFor : ∀ {d l s plan s'}, c.planFor n d l s = .ok (plan, s') → c.planFor (n + 1) d l s = .ok (plan, s')
  planSignatures : ∀ {visited plan m s found visited' s'},
    c.planSignatures n visited plan m s = .ok ((found, visited'), s') →
    c.planSignatures (n + 1) visited plan m s = .ok ((found, visited'), s')
  interfaceSignatures : ∀ {visited r s found visited' s'},
    c.interfaceSignatures n visited r s = .ok ((found, visited'), s') →
    c.interfaceSignatures (n + 1) visited r s = .ok ((found, visited'), s')

lemma Persists.gather (ih : c.Persists n) {rs : List TypeRef}
    (h : gather (c.interfaceSignatures n) visited rs s = .ok ((found, visited'), s')) :
    Wiring.gather (c.interfaceSignatures (n + 1)) visited rs s = .ok ((found, visited'), s') := by
  induction rs generalizing visited s found with
  | nil => exact h
  | cons r rs ihrs =>
    obtain ⟨first, middle, s₁, rest, hfirst, hrest, rfl⟩ := gather_cons_eq_ok h
    exact gather_cons_of_eq_ok (ih.interfaceSignatures hfirst) (ihrs hrest)

lemma Persists.mapM (ih : c.Persists n) {rs : List TypeRef} {results : List Signatures}
    (h : rs.mapM (c.interfaceSignatures n []) s = .ok (results, s')) :
    rs.mapM (c.interfaceSignatures (n + 1) []) s = .ok (results, s') := by
  induction rs generalizing s results with
  | nil => exact h
  | cons r rs ihrs =>
    obtain ⟨⟨found, visited⟩, s₁, rest, hfirst, hrest, rfl⟩ := mapM_cons_eq_ok h
    exact mapM_cons_of_eq_ok (ih.interfaceSignatures hfirst) (ihrs hrest)

lemma Persists.makes (ih : c.Persists n) {first : List TypeRef} {fromBase : List String}
    {fromParents fromAncestors : List Signatures}
    (h : Makes c n d l first fromBase fromParents fromAncestors s s₁ s₂ s₃ plan) :
    Makes c (n + 1) d l first fromBase fromParents fromAncestors s s₁ s₂ s₃ plan where
  base := by
    cases h.base with
    | none hnobase => exact .none hnobase
    | some hbase hplan hfound => exact .some hbase (ih.planFor hplan) (ih.planSignatures hfound)
  parents := ih.mapM h.parents
  ancestors := ih.mapM h.ancestors
  plan := h.plan

lemma persists (c : Conventions) (n : Nat) : c.Persists n := by
  -- on the steps, each call taken apart and put together again with those it makes one step deeper
  induction n with
  | zero =>
    refine ⟨fun h => ?_, fun h => ?_, fun h => ?_⟩
    · rw [planFor] at h
      cases h
    · rw [planSignatures] at h
      cases h
    · rw [interfaceSignatures] at h
      cases h
  | succ n ih =>
    refine ⟨fun {d l s plan s'} h => ?_, fun {visited plan m s found visited' s'} h => ?_,
      fun {visited r s found visited' s'} h => ?_⟩
    · obtain ⟨hkept, rfl⟩ | ⟨hnew, _, _, _, _, _, _, _, hmakes, rfl⟩ := planFor_cases h
      · exact planFor_of_kept hkept
      · exact planFor_of_makes hnew (ih.makes hmakes)
    · obtain ⟨rest, hrest, rfl⟩ := planSignatures_cases h
      exact planSignatures_of_gather (ih.gather hrest)
    · obtain ⟨hv, rfl, rfl, rfl⟩ | ⟨hv, hcases⟩ := interfaceSignatures_cases h
      · exact interfaceSignatures_of_mem hv
      obtain ⟨l, d, plan, s₁, hlink, hsource, hplan, hfound⟩ | ⟨hlink, hnone, rfl, rfl, rfl⟩ |
        ⟨e, rest, hlink, he, hrest, rfl⟩ := hcases
      · exact interfaceSignatures_of_draftLink? hv hlink hsource (ih.planFor hplan) (ih.planSignatures hfound)
      · exact interfaceSignatures_of_undeclared hv hlink hnone
      · exact interfaceSignatures_of_declared hv hlink he (ih.gather hrest)

lemma planFor_of_le (hle : n ≤ n') (h : c.planFor n d l s = .ok (plan, s')) :
    c.planFor n' d l s = .ok (plan, s') := by
  induction hle with
  | refl => exact h
  | step _ ih => exact (c.persists _).planFor ih

/-! All plans, with the steps that are allowed for each. -/

def draftAllWithin (c : Conventions) (steps : Nat) : List TypeDeclaration → Drafting (List InterfacePlan)
  | [] => return []
  | d :: ds =>
    match (c.link? d).filter (·.synthesized) with
    | none => draftAllWithin c steps ds
    | some l => do
      let plan ← planFor c steps d l
      return plan :: (← draftAllWithin c steps ds)

def interfacePlansWithin (c : Conventions) (steps : Nat) : Except GenerationFault (List InterfacePlan) :=
  ((c.draftAllWithin steps c.declarations.types).run {}).map Prod.fst

lemma draftAllWithin_draftingSteps (c : Conventions) (ds : List TypeDeclaration) :
    c.draftAllWithin c.draftingSteps ds = c.draftAll ds := by
  induction ds with
  | nil => rfl
  | cons d ds ih =>
    cases hl : (c.link? d).filter (·.synthesized) with
    | none => simp only [draftAllWithin, draftAll, hl, ih]
    | some l => simp only [draftAllWithin, draftAll, hl, ih]

lemma draftAllWithin_of_le (hle : n ≤ n') {ds : List TypeDeclaration} {plans : List InterfacePlan}
    (h : c.draftAllWithin n ds s = .ok (plans, s')) : c.draftAllWithin n' ds s = .ok (plans, s') := by
  induction ds generalizing s plans with
  | nil => exact h
  | cons d ds ih =>
    rw [draftAllWithin] at h ⊢
    cases hl : (c.link? d).filter (·.synthesized) with
    | none =>
      rw [hl] at h
      exact ih h
    | some l =>
      rw [hl] at h
      obtain ⟨plan, s₁, hplan, h⟩ := bind_eq_ok h
      obtain ⟨rest, s₂, hrest, h⟩ := bind_eq_ok h
      cases h
      change (c.planFor n' d l >>= _) s = _
      rw [bind_eq (planFor_of_le hle hplan), bind_eq (ih hrest)]
      rfl

lemma interfacePlansWithin_of_le {plans : List InterfacePlan} (hle : c.draftingSteps ≤ n)
    (h : c.interfacePlans = .ok plans) : c.interfacePlansWithin n = .ok plans := by
  rw [interfacePlans, ← draftAllWithin_draftingSteps, StateT.run] at h
  cases hrun : c.draftAllWithin c.draftingSteps c.declarations.types {} with
  | error _ =>
    rw [hrun] at h
    cases h
  | ok result =>
    rw [hrun] at h
    cases h
    rw [interfacePlansWithin, StateT.run, draftAllWithin_of_le hle hrun]
    rfl

/-- For all declarations that are accepted the plans are there, one for each type whose interface is to be made. Calls
nest no deeper than the steps that are allowed, from any plans that are kept and under way. -/
theorem synthesis_ends {set : DeclarationSet} (hc : ofDeclarations set = .ok c) :
    (∀ d l, c.IsDrafted d l → ∀ s, ∃ plan s', ∀ steps ≥ c.draftingSteps, c.planFor steps d l s = .ok (plan, s')) ∧
      ∃ plans, c.interfacePlans = .ok plans ∧
        (∀ steps ≥ c.draftingSteps, c.interfacePlansWithin steps = .ok plans) ∧
        plans.map (·.source) = (set.types.filter c.synthesizesInterface).map (·.ref) := by
  obtain rfl := (ofDeclarations_cases hc).1
  constructor
  · intro d l hd s
    obtain ⟨plan, s', hplan⟩ := exists_planFor hc hd s
    exact ⟨plan, s', fun steps hsteps => planFor_of_le hsteps hplan⟩
  · obtain ⟨plans, hplans, hall⟩ := exists_interfacePlans hc
    exact ⟨plans, hplans, fun steps hsteps => interfacePlansWithin_of_le hsteps hplans, map_source_eq hall⟩

end Conventions

/-! Bees and drones that ask for one another, and combs of which each is made of larger ones. -/

namespace Hives

open Conventions
open Orders (named method link)

def cell (r : TypeRef) : TypeRef :=
  { named "Cell" with arguments := [r] }

def parameter : TypeRef where
  name := "T"
  isTypeParameter := true

def comb (name parent : String) : TypeDeclaration where
  ref := { named name with arguments := [parameter] }
  interfaces := [{ named parent with arguments := [cell parameter] }]
  members := [method "build"]
  isInterface := true

def bee : TypeDeclaration where
  ref := named "Bee"
  interfaces := [{ name := "IBee" }, { name := "IDrone" }, { named "IInner" with arguments := [named "Wax"] }]
  members := [method "build", method "fly"]

def drone : TypeDeclaration where
  ref := named "Drone"
  base := some bee.ref
  interfaces := [{ name := "IDrone" }, { name := "IBee" }]
  members := [method "fly"]

def hive : DeclarationSet where
  types := [comb "IInner" "IOuter", comb "IOuter" "IInner", bee, drone]
  keys_nodup := by decide

def conventions : Conventions where
  declarations := hive
  links := [link bee, link drone]
  chains := [((comb "IInner" "IOuter").key, []), ((comb "IOuter" "IInner").key, []), (bee.key, []),
    (drone.key, [{ declaration := bee, ref := bee.ref }])]

theorem hive_synthesized :
    Conventions.ofDeclarations hive = .ok conventions ∧ ∃ plans, conventions.interfacePlans = .ok plans ∧
      plans.map (·.source) = [bee.ref, drone.ref] := by
  have hc : Conventions.ofDeclarations hive = .ok conventions := by cbv
  obtain ⟨-, plans, hplans, -, hsources⟩ := synthesis_ends hc
  exact ⟨hc, plans, hplans, hsources.trans (by decide)⟩

end Hives

end Wiring
