import Wiring.Proofs.Plan.Drafting

/-!
Plans of interfaces that are kept while others are made. If the plan for a base can be made without that for what
extends it, no plan is begun while it is being made; each call then leaves the plans that are kept as they are.
-/

namespace Wiring

namespace Conventions

open Drafting

variable {c : Conventions} {n : Nat} {d : TypeDeclaration} {l : InterfaceLink} {s s' s₁ : Drafts}
  {plan : InterfacePlan} {visited visited' : List TypeKey} {found : List String} {r : TypeRef} {k : TypeKey}

def Waits (c : Conventions) (underWay : List TypeKey) (r : TypeRef) : Prop :=
  ∀ u ∈ underWay, ∃ d l, c.IsDrafted d l ∧ d.key = u ∧ c.Asks d l r

def WaitsFor (c : Conventions) (underWay : List TypeKey) (k : TypeKey) : Prop :=
  ∀ u ∈ underWay, ∃ d l, c.IsDrafted d l ∧ d.key = u ∧ ∃ r, r.key = k ∧ c.Asks d l r

structure Sound (c : Conventions) (s : Drafts) : Prop where
  apart : ∀ k plan, Assoc.find? k s.plans = some plan → k ∉ s.underWay
  drafts : ∀ k plan, Assoc.find? k s.plans = some plan → ∃ d l, c.IsDrafted d l ∧ d.key = k ∧
    plan.ref = draftRef d l ∧ plan.source = d.ref ∧ plan.parents = c.draftParents d l

def Extends (plans plans' : List (TypeKey × InterfacePlan)) : Prop :=
  ∀ k plan, Assoc.find? k plans = some plan → Assoc.find? k plans' = some plan

def Made (c : Conventions) (plans : List (TypeKey × InterfacePlan)) (d : TypeDeclaration) (l : InterfaceLink)
    (plan : InterfacePlan) : Prop :=
  c.IsDrafted d l ∧ ∃ n first fromBase fromParents fromAncestors s s₁ s₂ s₃, Sound c s ∧
    Assoc.find? d.key s.plans = none ∧ d.key ∉ s.underWay ∧ c.WaitsFor s.underWay l.interface.key ∧
    Makes c n d l first fromBase fromParents fromAncestors (enter s d.key) s₁ s₂ s₃ plan ∧ Extends s₃.plans plans

structure Runs (c : Conventions) (s s' : Drafts) : Prop where
  sound : Sound c s'
  underWay : s'.underWay = s.underWay
  kept : Extends s.plans s'.plans
  made : ∀ k plan, Assoc.find? k s'.plans = some plan → Assoc.find? k s.plans = none →
    ∃ d l, d.key = k ∧ Made c s'.plans d l plan

lemma Extends.refl (plans : List (TypeKey × InterfacePlan)) : Extends plans plans :=
  fun _ _ h => h

lemma Extends.trans {plans plans' plans'' : List (TypeKey × InterfacePlan)} (h : Extends plans plans')
    (h' : Extends plans' plans'') : Extends plans plans'' :=
  fun k plan hk => h' k plan (h k plan hk)

lemma Made.mono {plans plans' : List (TypeKey × InterfacePlan)} (h : Made c plans d l plan)
    (hkept : Extends plans plans') : Made c plans' d l plan := by
  obtain ⟨hd, n, first, fromBase, fromParents, fromAncestors, s, s₁, s₂, s₃, hs, hnone, hway, hwaits, hmakes, hold⟩ := h
  exact ⟨hd, n, first, fromBase, fromParents, fromAncestors, s, s₁, s₂, s₃, hs, hnone, hway, hwaits, hmakes,
    hold.trans hkept⟩

lemma Runs.refl (h : Sound c s) : Runs c s s where
  sound := h
  underWay := rfl
  kept := .refl _
  made k plan hsome hnone := by cases hnone.symm.trans hsome

lemma Runs.trans (h : Runs c s s₁) (h' : Runs c s₁ s') : Runs c s s' where
  sound := h'.sound
  underWay := h'.underWay.trans h.underWay
  kept := h.kept.trans h'.kept
  made k plan hsome hnone := by
    cases hmiddle : Assoc.find? k s₁.plans with
    | none => exact h'.made k plan hsome hmiddle
    | some middle =>
      cases (h'.kept k middle hmiddle).symm.trans hsome
      obtain ⟨d, l, hd, hmade⟩ := h.made k _ hmiddle hnone
      exact ⟨d, l, hd, hmade.mono h'.kept⟩

lemma Sound.plan_eq (hs : Sound c s) (hd : c.IsDrafted d l) (h : Assoc.find? d.key s.plans = some plan) :
    plan.ref = draftRef d l ∧ plan.source = d.ref ∧ plan.parents = c.draftParents d l := by
  obtain ⟨e, el, he, hkey, hplan⟩ := hs.drafts _ _ h
  obtain rfl := DeclarationSet.eq_of_key_eq he.declared hd.declared hkey
  cases he.linked.symm.trans hd.linked
  exact hplan

lemma Sound.enter (hs : Sound c s) (h : Assoc.find? k s.plans = none) : Sound c (enter s k) where
  apart k' plan hk' := by
    rintro (_ | ⟨_, hmem⟩)
    · cases h.symm.trans hk'
    · exact hs.apart k' plan hk' hmem
  drafts := hs.drafts

lemma WaitsFor.enter (hc : ofDeclarations c.declarations = .ok c) (hd : c.IsDrafted d l)
    (h : c.WaitsFor s.underWay l.interface.key) (hr : r ∈ c.asked d l) : c.Waits (enter s d.key).underWay r := by
  rintro u (_ | ⟨_, hu⟩)
  · exact ⟨d, l, hd, rfl, asks_of_mem hr⟩
  · obtain ⟨e, el, he, hkey, q, hq, hasks⟩ := h u hu
    exact ⟨e, el, he, hkey, hasks.step (asked_subset_needed hc hd hq hr)⟩

lemma Waits.step {underWay : List TypeKey} {r' : TypeRef} (h : c.Waits underWay r) (hr : r' ∈ c.needed r) :
    c.Waits underWay r' := by
  intro u hu
  obtain ⟨e, el, he, hkey, hasks⟩ := h u hu
  exact ⟨e, el, he, hkey, hasks.step hr⟩

lemma Waits.waitsFor {underWay : List TypeKey} (h : c.Waits underWay r) : c.WaitsFor underWay r.key := by
  intro u hu
  obtain ⟨e, el, he, hkey, hasks⟩ := h u hu
  exact ⟨e, el, he, hkey, r, rfl, hasks⟩

lemma mem_ancestors_of_draftBase? {a : Ancestor} {al : InterfaceLink} (h : c.draftBase? d = some (a, al)) :
    a ∈ c.ancestors d ∧ c.link? a.declaration = some al ∧ al.synthesized := by
  obtain ⟨a', ha, h⟩ := Option.bind_eq_some_iff.1 h
  obtain ⟨al', hl, h⟩ := Option.bind_eq_some_iff.1 h
  split at h
  · rename_i hs
    cases h
    exact ⟨List.mem_of_mem_head? ha, hl, hs⟩
  · cases h

lemma draftBase?_cases (hc : ofDeclarations c.declarations = .ok c) (hd : c.IsDrafted d l) {a : Ancestor}
    {al : InterfaceLink} (h : c.draftBase? d = some (a, al)) :
    c.IsDrafted a.declaration al ∧ a.declaration.key ≠ d.key := by
  obtain ⟨ha, hl, hs⟩ := mem_ancestors_of_draftBase? h
  have hdeclared := mem_types_of_mem_ancestors hc hd.declared ha
  refine ⟨⟨hdeclared, hl, hs⟩, fun hkey => ?_⟩
  have heq := DeclarationSet.eq_of_key_eq hdeclared hd.declared hkey
  have hmem : a.declaration ∈ c.superclasses d := List.mem_map_of_mem ha
  have hnodup := lineage_nodup hc hd.declared
  rw [lineage, List.nodup_cons] at hnodup
  exact hnodup.1 (heq ▸ hmem)

lemma IsDrafted.eq_of_key_eq {e : TypeDeclaration} {el : InterfaceLink} (hd : c.IsDrafted d l)
    (he : c.IsDrafted e el) (h : d.key = e.key) : d = e ∧ l = el := by
  obtain rfl := DeclarationSet.eq_of_key_eq hd.declared he.declared h
  exact ⟨rfl, Option.some.inj (hd.linked.symm.trans he.linked)⟩

lemma base_not_underWay (hc : ofDeclarations c.declarations = .ok c) (hfirst : c.BasesFirst) (hd : c.IsDrafted d l)
    (hwaits : c.WaitsFor s.underWay l.interface.key) {a : Ancestor} {al : InterfaceLink}
    (h : c.draftBase? d = some (a, al)) : a.declaration.key ∉ (enter s d.key).underWay := by
  obtain ⟨ha, hne⟩ := draftBase?_cases hc hd h
  rintro hmem
  obtain heq | hmem := List.mem_cons.1 hmem
  · exact hne heq
  · obtain ⟨e, el, he, hkey, q, hq, hasks⟩ := hwaits _ hmem
    obtain ⟨rfl, rfl⟩ := he.eq_of_key_eq ha hkey
    exact hfirst d l a el hd h q hasks hq

lemma baseParent?_mem_asked (h : c.baseParent? d = some r) : r ∈ c.asked d l :=
  List.mem_append_left _ (subset_listedParents c d l _ (by rw [h]; exact List.mem_singleton_self r))

structure RunsAt (c : Conventions) (n : Nat) : Prop where
  planFor : ∀ {d l s plan s'}, c.IsDrafted d l → Sound c s → d.key ∉ s.underWay →
    c.WaitsFor s.underWay l.interface.key → c.planFor n d l s = .ok (plan, s') →
    Runs c s s' ∧ Assoc.find? d.key s'.plans = some plan
  planSignatures : ∀ {plan m visited s found visited' s'}, Sound c s →
    (∀ p ∈ plan.parents, c.Waits s.underWay (p.substitute m)) →
    c.planSignatures n visited plan m s = .ok ((found, visited'), s') → Runs c s s'
  interfaceSignatures : ∀ {r visited s found visited' s'}, Sound c s → c.Waits s.underWay r →
    c.interfaceSignatures n visited r s = .ok ((found, visited'), s') → Runs c s s'

lemma baseParent?_eq {a : Ancestor} {al : InterfaceLink} (h : c.draftBase? d = some (a, al)) :
    c.baseParent? d = some ((draftRef a.declaration al).withArguments a.ref.arguments) := by
  rw [baseParent?, h]
  rfl

lemma RunsAt.basePlan (ih : c.RunsAt n) (hc : ofDeclarations c.declarations = .ok c) (hfirst : c.BasesFirst)
    (hd : c.IsDrafted d l) (hs : Sound c (enter s d.key)) (hwaits : c.WaitsFor s.underWay l.interface.key)
    {a : Ancestor} {al : InterfaceLink} (ha : c.draftBase? d = some (a, al))
    (h : c.planFor n a.declaration al (enter s d.key) = .ok (plan, s₁)) :
    Runs c (enter s d.key) s₁ ∧ Assoc.find? a.declaration.key s₁.plans = some plan := by
  have hwaitsparent := hwaits.enter hc hd (baseParent?_mem_asked (l := l) (baseParent?_eq ha))
  exact ih.planFor (draftBase?_cases hc hd ha).1 hs (base_not_underWay hc hfirst hd hwaits ha)
    hwaitsparent.waitsFor h

lemma RunsAt.planned (ih : c.RunsAt n) (hc : ofDeclarations c.declarations = .ok c) (hd : c.IsDrafted d l)
    (hs : Sound c s) (hplan : Assoc.find? d.key s.plans = some plan) (hr : r.key = l.interface.key)
    (hwaits : c.Waits s.underWay r)
    (h : c.planSignatures n visited plan (plan.ref.bindings r) s = .ok ((found, visited'), s')) : Runs c s s' := by
  obtain ⟨href, -, hparents⟩ := hs.plan_eq hd hplan
  refine ih.planSignatures hs (fun p hp => hwaits.step (plannedParents_subset_needed hc hd hr ?_)) h
  rw [hparents] at hp
  rw [href]
  exact List.mem_map_of_mem hp

lemma RunsAt.base (ih : c.RunsAt n) (hc : ofDeclarations c.declarations = .ok c) (hfirst : c.BasesFirst)
    (hd : c.IsDrafted d l) (hs : Sound c (enter s d.key)) (hwaits : c.WaitsFor s.underWay l.interface.key)
    {first : List TypeRef} (h : BaseRun c n d (enter s d.key) first found s₁) :
    Runs c (enter s d.key) s₁ ∧ first = (c.baseParent? d).toList := by
  cases h with
  | none hnobase => exact ⟨.refl hs, by rw [baseParent?, hnobase]; rfl⟩
  | some ha hplan hfound =>
    rename_i a al base s₀ visited
    obtain ⟨had, -⟩ := draftBase?_cases hc hd ha
    have hparent := baseParent?_eq ha
    obtain ⟨hrun, hkept⟩ := ih.basePlan hc hfirst hd hs hwaits ha hplan
    have hq := hwaits.enter hc hd (baseParent?_mem_asked (l := l) hparent)
    have hkey : ((draftRef a.declaration al).withArguments a.ref.arguments).key = al.interface.key := rfl
    rw [← (hrun.sound.plan_eq had hkept).1] at hparent hq hkey
    exact ⟨hrun.trans (ih.planned hc had hrun.sound hkept hkey (hrun.underWay ▸ hq) hfound), by rw [hparent]; rfl⟩

lemma RunsAt.mapM (ih : c.RunsAt n) {rs : List TypeRef} {results : List Signatures} (hs : Sound c s)
    (hrs : ∀ r ∈ rs, c.Waits s.underWay r) (h : rs.mapM (c.interfaceSignatures n []) s = .ok (results, s')) :
    Runs c s s' := by
  induction rs generalizing s results with
  | nil =>
    cases h
    exact .refl hs
  | cons r rs ihrs =>
    obtain ⟨⟨found, visited⟩, s₁, rest, hfirst, hrest, -⟩ := mapM_cons_eq_ok h
    obtain ⟨hr, hrs⟩ := List.forall_mem_cons.1 hrs
    have hrun := ih.interfaceSignatures hs hr hfirst
    exact hrun.trans (ihrs hrun.sound (hrun.underWay ▸ hrs) hrest)

lemma RunsAt.gather (ih : c.RunsAt n) {rs : List TypeRef} (hs : Sound c s)
    (hrs : ∀ r ∈ rs, c.Waits s.underWay r)
    (h : gather (c.interfaceSignatures n) visited rs s = .ok ((found, visited'), s')) : Runs c s s' := by
  induction rs generalizing visited s found with
  | nil =>
    cases h
    exact .refl hs
  | cons r rs ihrs =>
    obtain ⟨first, middle, s₁, rest, hfirst, hrest, -⟩ := gather_cons_eq_ok h
    obtain ⟨hr, hrs⟩ := List.forall_mem_cons.1 hrs
    have hrun := ih.interfaceSignatures hs hr hfirst
    exact hrun.trans (ihrs hrun.sound (hrun.underWay ▸ hrs) hrest)

lemma RunsAt.makes (ih : c.RunsAt n) (hc : ofDeclarations c.declarations = .ok c) (hfirst : c.BasesFirst)
    (hd : c.IsDrafted d l) (hs : Sound c (enter s d.key)) (hwaits : c.WaitsFor s.underWay l.interface.key)
    {first : List TypeRef} {fromParents fromAncestors : List Signatures} {s₂ s₃ : Drafts}
    (h : Makes c n d l first found fromParents fromAncestors (enter s d.key) s₁ s₂ s₃ plan) :
    first = (c.baseParent? d).toList ∧ Runs c (enter s d.key) s₁ ∧ Runs c s₁ s₂ ∧ Runs c s₂ s₃ := by
  have hasked : ∀ q ∈ c.asked d l, c.Waits (enter s d.key).underWay q := fun q hq => hwaits.enter hc hd hq
  obtain ⟨hrun₁, rfl⟩ := ih.base hc hfirst hd hs hwaits h.base
  have hrun₂ : Runs c s₁ s₂ := ih.mapM hrun₁.sound (fun r hr => hrun₁.underWay ▸
    hasked r (List.mem_append_left _ (List.mem_of_mem_drop hr))) h.parents
  have hrun₃ : Runs c s₂ s₃ := ih.mapM hrun₂.sound (fun r hr => hrun₂.underWay ▸ hrun₁.underWay ▸
    hasked r (List.mem_append_right _ hr)) h.ancestors
  exact ⟨rfl, hrun₁, hrun₂, hrun₃⟩

lemma Runs.find?_eq_none (hrun : Runs c (enter s k) s₁) : Assoc.find? k s₁.plans = none := by
  cases hfind : Assoc.find? k s₁.plans with
  | none => rfl
  | some other =>
    refine absurd ?_ (hrun.sound.apart _ _ hfind)
    rw [hrun.underWay]
    exact List.mem_cons_self

lemma Runs.finish (hway : d.key ∉ s.underWay) (hrun : Runs c (enter s d.key) s₁)
    (hplan : plan.ref = draftRef d l ∧ plan.source = d.ref ∧ plan.parents = c.draftParents d l)
    (hmade : Made c s₁.plans d l plan) : Runs c s (finish s₁ d.key plan) := by
  have hkept : Extends s₁.plans (Conventions.finish s₁ d.key plan).plans := by
    intro k other hk
    have hne : k ≠ d.key := fun heq => by cases hrun.find?_eq_none.symm.trans (heq ▸ hk)
    exact (Assoc.find?_put_of_ne hne plan s₁.plans).trans hk
  have hcases : ∀ k other, Assoc.find? k (Conventions.finish s₁ d.key plan).plans = some other →
      k = d.key ∧ other = plan ∨ Assoc.find? k s₁.plans = some other := by
    intro k other hk
    rw [Conventions.finish, Assoc.find?_put] at hk
    split at hk
    · rename_i hkey
      exact Or.inl ⟨hkey.symm, (Option.some.inj hk).symm⟩
    · exact Or.inr hk
  have hunderWay : (Conventions.finish s₁ d.key plan).underWay = s.underWay := by
    rw [Conventions.finish, hrun.underWay, enter, List.filter_cons_of_neg (by simp)]
    exact List.filter_eq_self.2 fun u hu => by simpa using fun heq : u = d.key => hway (heq ▸ hu)
  refine ⟨⟨fun k other hk => ?_, fun k other hk => ?_⟩, hunderWay, hrun.kept.trans hkept, fun k other hk hold => ?_⟩
  · rw [hunderWay]
    obtain ⟨rfl, -⟩ | hk := hcases k other hk
    · exact hway
    · intro hmem
      refine hrun.sound.apart k other hk ?_
      rw [hrun.underWay]
      exact List.mem_cons_of_mem _ hmem
  · obtain ⟨rfl, rfl⟩ | hk := hcases k other hk
    · exact ⟨d, l, hmade.1, rfl, hplan⟩
    · exact hrun.sound.drafts k other hk
  · obtain ⟨rfl, rfl⟩ | hk := hcases k other hk
    · exact ⟨d, l, rfl, hmade.mono hkept⟩
    · obtain ⟨e, el, he, hmade'⟩ := hrun.made k other hk hold
      exact ⟨e, el, he, hmade'.mono hkept⟩

lemma runsAt (hc : ofDeclarations c.declarations = .ok c) (hfirst : c.BasesFirst) (n : Nat) : c.RunsAt n := by
  induction n with
  | zero =>
    refine ⟨fun _ _ _ _ h => ?_, fun _ _ h => ?_, fun _ _ h => ?_⟩
    · rw [planFor] at h
      cases h
    · rw [planSignatures] at h
      cases h
    · rw [interfaceSignatures] at h
      cases h
  | succ n ih =>
    refine ⟨fun {d l s plan s'} hd hs hway hwaits h => ?_, fun {plan m visited s found visited' s'} hs hwaits h => ?_,
      fun {r visited s found visited' s'} hs hwaits h => ?_⟩
    · obtain ⟨hmemo, rfl⟩ | ⟨hnone, first, fromBase, fromParents, fromAncestors, s₁, s₂, s₃, hmakes, rfl⟩ :=
        planFor_cases h
      · exact ⟨.refl hs, hmemo⟩
      · obtain ⟨rfl, hrun₁, hrun₂, hrun₃⟩ := ih.makes hc hfirst hd (hs.enter hnone) hwaits hmakes
        have hplan : plan.ref = draftRef d l ∧ plan.source = d.ref ∧ plan.parents = c.draftParents d l := by
          rw [hmakes.plan]
          exact ⟨rfl, rfl, rfl⟩
        have hmade : Made c s₃.plans d l plan := ⟨hd, n, _, _, _, _, s, s₁, s₂, s₃, hs, hnone, hway, hwaits, hmakes,
          .refl _⟩
        exact ⟨((hrun₁.trans hrun₂).trans hrun₃).finish hway hplan hmade, Assoc.find?_put_self _ _ _⟩
    · obtain ⟨rest, hrest, -⟩ := planSignatures_cases h
      refine ih.gather hs (fun r hr => ?_) hrest
      obtain ⟨p, hp, rfl⟩ := List.mem_map.1 hr
      exact hwaits p hp
    · obtain ⟨-, -, -, rfl⟩ | ⟨-, ⟨l, d, plan, s₁, hlink, hsource, hplan, hrest⟩ | ⟨-, -, -, -, rfl⟩ |
        ⟨e, rest, -, he, hrest, -⟩⟩ := interfaceSignatures_cases h
      · exact .refl hs
      · obtain ⟨hd, hkey, hway⟩ := draftLink?_cases hc hlink hsource
        obtain ⟨hrun, hkept⟩ := ih.planFor hd hs hway (hkey ▸ hwaits.waitsFor) hplan
        exact hrun.trans (ih.planned hc hd hrun.sound hkept hkey.symm (hrun.underWay ▸ hwaits) hrest)
      · exact .refl hs
      · exact ih.gather hs (fun q hq => hwaits.step (declaredParents_subset_needed hc he hq)) hrest

/-! All plans. -/

lemma runs_draftAll (hc : ofDeclarations c.declarations = .ok c) (hfirst : c.BasesFirst)
    {ds : List TypeDeclaration} (hds : ds ⊆ c.declarations.types) (hs : Sound c s) (hway : s.underWay = [])
    {plans : List InterfacePlan} (h : c.draftAll ds s = .ok (plans, s')) :
    Runs c s s' ∧
      (∀ plan, plan ∈ plans ↔ ∃ d ∈ ds, ∃ l, c.IsDrafted d l ∧ Assoc.find? d.key s'.plans = some plan) ∧
      ∀ d ∈ ds, ∀ l, c.IsDrafted d l → ∃ plan, Assoc.find? d.key s'.plans = some plan := by
  induction ds generalizing s plans with
  | nil =>
    cases h
    exact ⟨.refl hs, by simp, by simp⟩
  | cons d ds ih =>
    obtain ⟨hd, hds⟩ := List.cons_subset.1 hds
    rw [draftAll] at h
    cases hl : (c.link? d).filter (·.synthesized) with
    | none =>
      simp only [hl] at h
      obtain ⟨hrun, hplans, hexists⟩ := ih hds hs hway h
      have hnot : ∀ l, ¬c.IsDrafted d l := by
        intro l hdrafted
        rw [hdrafted.linked, Option.filter_some, if_pos hdrafted.synthesized] at hl
        cases hl
      refine ⟨hrun, fun plan => (hplans plan).trans (by simp [hnot]), fun e he l hel => ?_⟩
      obtain rfl | he := List.mem_cons.1 he
      · exact absurd hel (hnot l)
      · exact hexists e he l hel
    | some l =>
      simp only [hl] at h
      obtain ⟨hlink, hsynthesized⟩ := Option.filter_eq_some_iff.1 hl
      have hdrafted : c.IsDrafted d l := ⟨hd, hlink, hsynthesized⟩
      obtain ⟨plan, s₁, hplan, h⟩ := Drafting.bind_eq_ok h
      obtain ⟨rest, s₂, hrest, h⟩ := Drafting.bind_eq_ok h
      cases h
      obtain ⟨hrun, hkept⟩ := (runsAt hc hfirst _).planFor hdrafted hs (by rw [hway]; exact List.not_mem_nil)
        (by rw [hway]; exact fun u hu => absurd hu List.not_mem_nil) hplan
      obtain ⟨hrun', hplans, hexists⟩ := ih hds hrun.sound (hrun.underWay.trans hway) hrest
      have hown : Assoc.find? d.key s'.plans = some plan := hrun'.kept _ _ hkept
      refine ⟨hrun.trans hrun', fun other => ?_, fun e he el hel => ?_⟩
      · rw [List.mem_cons, hplans other]
        constructor
        · rintro (rfl | ⟨e, he, el, hel⟩)
          · exact ⟨d, List.mem_cons_self, l, hdrafted, hown⟩
          · exact ⟨e, List.mem_cons_of_mem d he, el, hel⟩
        · rintro ⟨e, he, el, hel, hfind⟩
          obtain rfl | he := List.mem_cons.1 he
          · exact Or.inl (Option.some.inj (hfind.symm.trans hown))
          · exact Or.inr ⟨e, he, el, hel, hfind⟩
      · obtain rfl | he := List.mem_cons.1 he
        · exact ⟨plan, hown⟩
        · exact hexists e he el hel

structure Complete (c : Conventions) (plans : List InterfacePlan) (memo : List (TypeKey × InterfacePlan)) : Prop where
  mem_iff : ∀ plan, plan ∈ plans ↔ ∃ d l, c.IsDrafted d l ∧ Assoc.find? d.key memo = some plan
  exists_plan : ∀ d l, c.IsDrafted d l → ∃ plan, Assoc.find? d.key memo = some plan
  made : ∀ d l plan, c.IsDrafted d l → Assoc.find? d.key memo = some plan → Made c memo d l plan
  eq : ∀ d l plan, c.IsDrafted d l → Assoc.find? d.key memo = some plan →
    plan.ref = draftRef d l ∧ plan.source = d.ref ∧ plan.parents = c.draftParents d l

lemma exists_complete (hc : ofDeclarations c.declarations = .ok c) (hfirst : c.BasesFirst)
    {plans : List InterfacePlan} (h : c.interfacePlans = .ok plans) : ∃ memo, Complete c plans memo := by
  rw [interfacePlans] at h
  cases hrun : (c.draftAll c.declarations.types).run {} with
  | error e =>
    rw [hrun] at h
    cases h
  | ok result =>
    rw [hrun] at h
    cases h
    have hs : Sound c {} := ⟨fun _ _ hk => (by cases hk), fun _ _ hk => (by cases hk)⟩
    obtain ⟨hruns, hmem, hexists⟩ := runs_draftAll hc hfirst (List.Subset.refl _) hs rfl hrun
    refine ⟨result.2.plans, fun plan => (hmem plan).trans ?_, fun d l hd => hexists d hd.declared l hd,
      fun d l plan hd hplan => ?_, fun d l plan hd hplan => hruns.sound.plan_eq hd hplan⟩
    · exact ⟨fun ⟨d, _, l, hd⟩ => ⟨d, l, hd⟩, fun ⟨d, l, hd⟩ => ⟨d, hd.1.declared, l, hd⟩⟩
    · obtain ⟨e, el, hkey, hmade⟩ := hruns.made _ plan hplan rfl
      obtain ⟨rfl, rfl⟩ := hmade.1.eq_of_key_eq hd hkey
      exact hmade

variable {plans : List InterfacePlan} {memo : List (TypeKey × InterfacePlan)}

lemma Complete.find?_eq_some (hc : ofDeclarations c.declarations = .ok c) (h : Complete c plans memo)
    (hd : c.IsDrafted d l) (hplan : Assoc.find? d.key memo = some plan) :
    plans.find? (·.ref.key = l.interface.key) = some plan := by
  have href : plan.ref.key = l.interface.key := by
    rw [(h.eq d l plan hd hplan).1]
    rfl
  have hmem : plan ∈ plans := (h.mem_iff plan).2 ⟨d, l, hd, hplan⟩
  cases hfind : plans.find? (·.ref.key = l.interface.key) with
  | none => exact absurd (decide_eq_true href) (List.find?_eq_none.1 hfind plan hmem)
  | some other =>
    obtain ⟨e, el, he, hother⟩ := (h.mem_iff other).1 (List.mem_of_find?_eq_some hfind)
    have hkey : other.ref.key = l.interface.key := by simpa using List.find?_some hfind
    rw [(h.eq e el other he hother).1] at hkey
    have heq := (drafted?_iff hc).2 ⟨he, hkey⟩
    rw [(drafted?_iff hc).2 ⟨hd, rfl⟩] at heq
    cases heq
    rw [← hother, hplan]

lemma Complete.find?_eq_none (hc : ofDeclarations c.declarations = .ok c) (h : Complete c plans memo)
    (hk : c.drafted? k = none) : plans.find? (·.ref.key = k) = none := by
  refine List.find?_eq_none.2 fun plan hmem hkey => ?_
  obtain ⟨d, l, hd, hplan⟩ := (h.mem_iff plan).1 hmem
  have hkey := of_decide_eq_true hkey
  rw [(h.eq d l plan hd hplan).1] at hkey
  rw [(drafted?_iff hc).2 ⟨hd, hkey⟩] at hk
  cases hk

end Conventions

end Wiring
