import Mathlib.Tactic.Linarith
import Wiring.Proofs.Plan.Drafts

/-!
The steps that a run is allowed are enough. Between two types that are entered for the first time lie no more than the
interfaces that one query visits and the bases below one type.
-/

namespace Wiring

lemma length_filter_lt {α : Type} {l : List α} {p q : α → Bool} (h : ∀ a ∈ l, p a → q a) {a : α} (ha : a ∈ l)
    (hp : p a = false) (hq : q a = true) : (l.filter p).length < (l.filter q).length := by
  have hfilter : l.filter p = (l.filter q).filter p := by
    rw [List.filter_filter]
    refine List.filter_congr fun x hx => ?_
    cases hpx : p x with
    | false => rfl
    | true => rw [h x hx hpx, Bool.and_true]
  rw [hfilter]
  exact List.length_filter_lt_length_iff_exists.2 ⟨a, List.mem_filter.2 ⟨ha, hq⟩, by simp [hp]⟩

lemma Drafting.bind_eq {α β : Type} {x : Drafting α} {f : α → Drafting β} {a : α} {s s₁ : Drafts}
    (h : x s = .ok (a, s₁)) : (x >>= f) s = f a s₁ := by
  change (x s >>= fun p => f p.1 p.2) = _
  rw [h]
  rfl

namespace Conventions

open Drafting

variable {c : Conventions} {n : Nat} {d : TypeDeclaration} {l : InterfaceLink} {s s' : Drafts} {k : TypeKey}
  {plan : InterfacePlan} {visited visited' : List TypeKey} {found : List String} {r : TypeRef} {m : Bindings} {a : Nat}

def entered (s : Drafts) : List TypeKey :=
  s.plans.map Prod.fst ++ s.underWay

def ahead (c : Conventions) (s : Drafts) : Nat :=
  (c.declarations.types.filter (·.key ∉ entered s)).length

def knownKeys (c : Conventions) : List TypeKey :=
  c.declarations.types.map TypeDeclaration.key ++ c.links.map (·.interface.key)

def unvisited (c : Conventions) (visited : List TypeKey) : Nat :=
  (c.knownKeys.filter (· ∉ visited)).length

def querySteps (c : Conventions) (ahead unvisited : Nat) : Nat :=
  ahead * (5 * c.declarations.types.length + 4) + 2 * unvisited + 2

def planSteps (c : Conventions) (ahead height : Nat) : Nat :=
  ahead * (5 * c.declarations.types.length + 4) + 4 * c.declarations.types.length + height + 4

lemma ahead_le (h : entered s ⊆ entered s') : c.ahead s' ≤ c.ahead s := by
  refine List.Sublist.length_le (List.monotone_filter_right _ fun d hd => ?_)
  have hnot := of_decide_eq_true hd
  exact decide_eq_true fun hmem => hnot (h hmem)

lemma unvisited_le (h : visited ⊆ visited') : c.unvisited visited' ≤ c.unvisited visited := by
  refine List.Sublist.length_le (List.monotone_filter_right _ fun k hk => ?_)
  have hnot := of_decide_eq_true hk
  exact decide_eq_true fun hmem => hnot (h hmem)

lemma ahead_enter_lt (hd : d ∈ c.declarations.types) (hnot : d.key ∉ entered s) :
    c.ahead (enter s d.key) < c.ahead s := by
  have hmem : ∀ k, k ∈ entered (enter s d.key) ↔ k = d.key ∨ k ∈ entered s := by
    intro k
    simp only [entered, enter, List.mem_append, List.mem_cons]
    tauto
  refine length_filter_lt (fun e _ he => ?_) hd ?_ (decide_eq_true hnot)
  · have he' := of_decide_eq_true he
    exact decide_eq_true fun h => he' ((hmem _).2 (Or.inr h))
  · exact decide_eq_false (not_not.2 ((hmem _).2 (Or.inl rfl)))

lemma unvisited_cons_lt (hk : k ∈ c.knownKeys) (hnot : k ∉ visited) :
    c.unvisited (k :: visited) < c.unvisited visited := by
  refine length_filter_lt (fun j _ hj => ?_) hk (by simp) (decide_eq_true hnot)
  have hj' := of_decide_eq_true hj
  exact decide_eq_true fun h => hj' (List.mem_cons_of_mem _ h)

lemma length_links_le (hc : ofDeclarations c.declarations = .ok c) :
    c.links.length ≤ c.declarations.types.length := by
  rw [(ofDeclarations_cases hc).2.1]
  exact List.length_filterMap_le _ _

lemma unvisited_nil_le (hc : ofDeclarations c.declarations = .ok c) :
    c.unvisited [] ≤ 2 * c.declarations.types.length := by
  have hlength : c.knownKeys.length = c.declarations.types.length + c.links.length := by
    rw [knownKeys, List.length_append, List.length_map, List.length_map]
  have hlinks := length_links_le hc
  have hle : c.unvisited [] ≤ c.knownKeys.length := List.length_filter_le _ _
  omega

/-! Calls that end if those they make do. -/

lemma planFor_of_kept (h : Assoc.find? d.key s.plans = some plan) : c.planFor (n + 1) d l s = .ok (plan, s) := by
  rw [planFor, get_bind, h]
  rfl

lemma planFor_of_makes (h : Assoc.find? d.key s.plans = none) {first : List TypeRef} {fromBase : List String}
    {fromParents fromAncestors : List Signatures} {s₁ s₂ s₃ : Drafts}
    (hmakes : Makes c n d l first fromBase fromParents fromAncestors (enter s d.key) s₁ s₂ s₃ plan) :
    c.planFor (n + 1) d l s = .ok (plan, finish s₃ d.key plan) := by
  obtain ⟨hbase, hparents, hancestors, hplan⟩ := hmakes
  rw [planFor, get_bind, h]
  have hrest : (do
      let fromParents ← ((c.listedParents d l first).drop first.length).mapM (c.interfaceSignatures n [])
      let fromAncestors ← (c.ancestorInterfaces d).mapM (c.interfaceSignatures n [])
      let plan := draft d l (c.listedParents d l first)
        (fromBase ++ fromParents.flatMap Prod.fst ++ fromAncestors.flatMap Prod.fst)
      modify fun s => finish s d.key plan
      return plan : Drafting InterfacePlan) s₁ = .ok (plan, finish s₃ d.key plan) := by
    rw [bind_eq hparents, bind_eq hancestors, hplan]
    rfl
  cases hbase with
  | none hnobase =>
    rw [hnobase]
    exact hrest
  | some ha hbaseplan hfound =>
    change (_ : Drafting InterfacePlan) (enter s d.key) = _
    rw [ha]
    change ((_ : Drafting InterfacePlan) >>= _) _ = _
    rw [bind_eq hbaseplan, bind_eq hfound]
    exact hrest

lemma planSignatures_of_gather {rest : List String}
    (h : gather (c.interfaceSignatures n) visited (plan.parents.map (·.substitute m)) s =
      .ok ((rest, visited'), s')) :
    c.planSignatures (n + 1) visited plan m s =
      .ok ((plan.members.map (·.boundSignature m) ++ rest, visited'), s') := by
  rw [planSignatures, bind_eq h]
  rfl

lemma interfaceSignatures_of_mem (h : r.key ∈ visited) :
    c.interfaceSignatures (n + 1) visited r s = .ok (([], visited), s) := by
  rw [interfaceSignatures, if_pos h]
  rfl

lemma interfaceSignatures_of_draftLink? (h : r.key ∉ visited) (hl : c.draftLink? s.underWay r.key = some l)
    (hd : c.declarations.find? l.source = some d) {s₁ : Drafts} (hplan : c.planFor n d l s = .ok (plan, s₁))
    (hfound : c.planSignatures n (r.key :: visited) plan (plan.ref.bindings r) s₁ = .ok ((found, visited'), s')) :
    c.interfaceSignatures (n + 1) visited r s = .ok ((found, visited'), s') := by
  rw [interfaceSignatures, if_neg h, get_bind, hl]
  simp only [hd]
  rw [bind_eq hplan, hfound]

lemma interfaceSignatures_of_undeclared (h : r.key ∉ visited) (hl : c.draftLink? s.underWay r.key = none)
    (hd : c.declarations.find? r = none) :
    c.interfaceSignatures (n + 1) visited r s = .ok (([], r.key :: visited), s) := by
  rw [interfaceSignatures, if_neg h, get_bind, hl]
  simp only [hd]
  rfl

lemma interfaceSignatures_of_declared (h : r.key ∉ visited) (hl : c.draftLink? s.underWay r.key = none)
    (hd : c.declarations.find? r = some d) {rest : List String}
    (hrest : gather (c.interfaceSignatures n) (r.key :: visited) (c.declaredParents d r) s =
      .ok ((rest, visited'), s')) :
    c.interfaceSignatures (n + 1) visited r s =
      .ok ((d.members.map (·.boundSignature (d.ref.bindings r)) ++ rest, visited'), s') := by
  rw [interfaceSignatures, if_neg h, get_bind, hl]
  simp only [hd]
  rw [declaredParents] at hrest
  rw [bind_eq hrest]
  rfl

/-! Runs that end. -/

lemma querySteps_le {u u' : Nat} (h : u' ≤ u) : c.querySteps a u' ≤ c.querySteps a u := by
  rw [querySteps, querySteps]
  omega

lemma entered_subset_enter (s : Drafts) (k : TypeKey) : entered s ⊆ entered (enter s k) :=
  List.append_subset.2 ⟨List.subset_append_left _ _,
    List.Subset.trans (List.subset_cons_self _ _) (List.subset_append_right _ _)⟩

lemma entered_subset_finish (s : Drafts) (k : TypeKey) (plan : InterfacePlan) :
    entered s ⊆ entered (finish s k plan) := by
  intro j hj
  by_cases hkept : j ∈ (finish s k plan).plans.map Prod.fst
  · exact List.mem_append_left _ hkept
  have hnone := (Assoc.find?_eq_none_iff _ _).2 hkept
  rw [finish, Assoc.find?_put] at hnone
  split at hnone
  · cases hnone
  · rename_i hne
    have hj := (List.mem_append.1 hj).resolve_left ((Assoc.find?_eq_none_iff _ _).1 hnone)
    exact List.mem_append_right _ (List.mem_filter.2 ⟨hj, decide_eq_true fun heq => hne heq.symm⟩)

structure EndsAt (c : Conventions) (n : Nat) : Prop where
  planFor : ∀ {d l s a}, c.IsDrafted d l → c.ahead (enter s d.key) ≤ a →
    c.planSteps a (c.superclasses d).length ≤ n →
    ∃ plan s', c.planFor n d l s = .ok (plan, s') ∧ entered s ⊆ entered s'
  planSignatures : ∀ (plan) (m) (visited) {s a}, c.ahead s ≤ a → c.querySteps a (c.unvisited visited) < n →
    ∃ found visited' s', c.planSignatures n visited plan m s = .ok ((found, visited'), s') ∧
      entered s ⊆ entered s' ∧ visited ⊆ visited'
  interfaceSignatures : ∀ {r visited s a}, c.ahead s ≤ a → c.querySteps a (c.unvisited visited) ≤ n →
    ∃ found visited' s', c.interfaceSignatures n visited r s = .ok ((found, visited'), s') ∧
      entered s ⊆ entered s' ∧ visited ⊆ visited'

lemma EndsAt.gather (ih : c.EndsAt n) (rs : List TypeRef) (ha : c.ahead s ≤ a)
    (hn : c.querySteps a (c.unvisited visited) ≤ n) :
    ∃ found visited' s', gather (c.interfaceSignatures n) visited rs s = .ok ((found, visited'), s') ∧
      entered s ⊆ entered s' ∧ visited ⊆ visited' := by
  induction rs generalizing visited s with
  | nil => exact ⟨[], visited, s, rfl, List.Subset.refl _, List.Subset.refl _⟩
  | cons r rs ihrs =>
    obtain ⟨first, middle, s₁, hfirst, hs₁, hmiddle⟩ := ih.interfaceSignatures (r := r) ha hn
    obtain ⟨rest, visited', s', hrest, hs', hvisited⟩ := ihrs (Nat.le_trans (ahead_le hs₁) ha)
      (Nat.le_trans (querySteps_le (unvisited_le hmiddle)) hn)
    refine ⟨first ++ rest, visited', s', ?_, List.Subset.trans hs₁ hs', List.Subset.trans hmiddle hvisited⟩
    rw [Wiring.gather, bind_eq hfirst]
    change (Wiring.gather _ _ _ >>= _) _ = _
    rw [bind_eq hrest]
    rfl

lemma EndsAt.mapM (ih : c.EndsAt n) (rs : List TypeRef) (ha : c.ahead s ≤ a)
    (hn : c.querySteps a (c.unvisited []) ≤ n) :
    ∃ results s', rs.mapM (c.interfaceSignatures n []) s = .ok (results, s') ∧ entered s ⊆ entered s' := by
  induction rs generalizing s with
  | nil => exact ⟨[], s, rfl, List.Subset.refl _⟩
  | cons r rs ihrs =>
    obtain ⟨found, visited, s₁, hfirst, hs₁, -⟩ := ih.interfaceSignatures (r := r) ha hn
    obtain ⟨results, s', hrest, hs'⟩ := ihrs (Nat.le_trans (ahead_le hs₁) ha)
    refine ⟨(found, visited) :: results, s', ?_, List.Subset.trans hs₁ hs'⟩
    rw [List.mapM_cons, bind_eq hfirst, bind_eq hrest]
    rfl

lemma superclasses_of_draftBase? (hc : ofDeclarations c.declarations = .ok c) (hd : d ∈ c.declarations.types)
    {b : Ancestor} {bl : InterfaceLink} (h : c.draftBase? d = some (b, bl)) :
    c.superclasses d = c.lineage b.declaration := by
  obtain ⟨b', hb', h⟩ := Option.bind_eq_some_iff.1 h
  obtain ⟨bl', -, h⟩ := Option.bind_eq_some_iff.1 h
  split at h
  · cases h
    obtain ⟨-, hnil⟩ | ⟨r, e, rest, hbase, -, hcons, -⟩ := ancestors_cases hc hd
    · rw [hnil] at hb'
      cases hb'
    · rw [hcons] at hb'
      cases hb'
      exact superclasses_of_derived hc hd hbase
  · cases h

lemma EndsAt.base (ih : c.EndsAt n) (hc : ofDeclarations c.declarations = .ok c) (hd : c.IsDrafted d l)
    (ha : c.ahead (enter s d.key) ≤ a) (hn : c.planSteps a (c.superclasses d).length ≤ n + 1) :
    ∃ first fromBase s₁, BaseRun c n d (enter s d.key) first fromBase s₁ ∧
      entered (enter s d.key) ⊆ entered s₁ := by
  cases hbase : c.draftBase? d with
  | none => exact ⟨[], [], _, .none hbase, List.Subset.refl _⟩
  | some found =>
    obtain ⟨b, bl⟩ := found
    have hb := (draftBase?_cases hc hd hbase).1
    have hheight : (c.superclasses d).length = (c.superclasses b.declaration).length + 1 := by
      rw [superclasses_of_draftBase? hc hd.declared hbase, lineage, List.length_cons]
    have hvisits := unvisited_nil_le hc
    rw [hheight, planSteps] at hn
    obtain ⟨base, s₀, hplan, hs₀⟩ := ih.planFor hb
      (Nat.le_trans (ahead_le (entered_subset_enter _ b.declaration.key)) ha) (by rw [planSteps]; omega)
    obtain ⟨fromBase, visited, s₁, hfound, hs₁, -⟩ := ih.planSignatures base
      (base.ref.bindings (base.ref.withArguments b.ref.arguments)) [] (Nat.le_trans (ahead_le hs₀) ha)
      (by rw [querySteps]; omega)
    exact ⟨_, _, _, .some hbase hplan hfound, List.Subset.trans hs₀ hs₁⟩

lemma EndsAt.makes (ih : c.EndsAt n) (hc : ofDeclarations c.declarations = .ok c) (hd : c.IsDrafted d l)
    (ha : c.ahead (enter s d.key) ≤ a) (hn : c.planSteps a (c.superclasses d).length ≤ n + 1) :
    ∃ first fromBase fromParents fromAncestors s₁ s₂ s₃ plan,
      Makes c n d l first fromBase fromParents fromAncestors (enter s d.key) s₁ s₂ s₃ plan ∧
      entered (enter s d.key) ⊆ entered s₃ := by
  have hquery : c.querySteps a (c.unvisited []) ≤ n := by
    have hvisits := unvisited_nil_le hc
    rw [planSteps] at hn
    rw [querySteps]
    omega
  obtain ⟨first, fromBase, s₁, hbase, hs₁⟩ := ih.base hc hd ha hn
  obtain ⟨fromParents, s₂, hparents, hs₂⟩ := ih.mapM ((c.listedParents d l first).drop first.length)
    (Nat.le_trans (ahead_le hs₁) ha) hquery
  obtain ⟨fromAncestors, s₃, hancestors, hs₃⟩ := ih.mapM (c.ancestorInterfaces d)
    (Nat.le_trans (ahead_le (List.Subset.trans hs₁ hs₂)) ha) hquery
  exact ⟨first, fromBase, fromParents, fromAncestors, s₁, s₂, s₃, _, ⟨hbase, hparents, hancestors, rfl⟩,
    List.Subset.trans (List.Subset.trans hs₁ hs₂) hs₃⟩

lemma key_mem_knownKeys_of_linkTo? (h : c.linkTo? k = some l) : k ∈ c.knownKeys := by
  have hkey : l.interface.key = k := by simpa using List.find?_some h
  exact List.mem_append_right _ (hkey ▸ List.mem_map_of_mem (List.mem_of_find?_eq_some h))

lemma key_mem_knownKeys_of_find? (h : c.declarations.find? r = some d) : r.key ∈ c.knownKeys := by
  obtain ⟨hmem, hkey⟩ := DeclarationSet.get?_mem h
  exact List.mem_append_left _ (hkey ▸ List.mem_map_of_mem hmem)

lemma EndsAt.asked (ih : c.EndsAt n) (hc : ofDeclarations c.declarations = .ok c) (hd : c.IsDrafted d l)
    (hway : d.key ∉ s.underWay) (ha : c.ahead s ≤ a) (hn : a * (5 * c.declarations.types.length + 4) < n) :
    ∃ plan s', c.planFor n d l s = .ok (plan, s') ∧ entered s ⊆ entered s' := by
  by_cases hmem : d.key ∈ s.plans.map Prod.fst
  · obtain ⟨plan, hplan⟩ := Option.ne_none_iff_exists'.1
      (mt (Assoc.find?_eq_none_iff _ _).1 (not_not.2 hmem))
    cases n with
    | zero => exact absurd hn (Nat.not_lt_zero _)
    | succ n => exact ⟨plan, s, planFor_of_kept hplan, List.Subset.refl _⟩
  · have hlt := ahead_enter_lt hd.declared (s := s) (by simp [entered, hmem, hway])
    have hheight := length_lineage_le hc hd.declared
    rw [lineage, List.length_cons] at hheight
    cases a with
    | zero => omega
    | succ a =>
      refine ih.planFor hd (a := a) (by omega) ?_
      rw [Nat.succ_mul] at hn
      rw [planSteps]
      omega

lemma endsAt (hc : ofDeclarations c.declarations = .ok c) (n : Nat) : c.EndsAt n := by
  -- a query visits one more interface in each step, and a plan enters one more type, so the steps left cover the rest
  induction n with
  | zero =>
    refine ⟨fun _ _ hn => absurd hn ?_, fun _ _ _ _ _ _ hn => absurd hn (Nat.not_lt_zero _), fun _ hn => absurd hn ?_⟩
    · rw [planSteps]
      omega
    · rw [querySteps]
      omega
  | succ n ih =>
    refine ⟨fun {d l s a} hd ha hn => ?_, fun plan m visited s a ha hn => ?_,
      fun {r visited s a} ha hn => ?_⟩
    · cases hmemo : Assoc.find? d.key s.plans with
      | some plan => exact ⟨plan, s, planFor_of_kept hmemo, List.Subset.refl _⟩
      | none =>
        obtain ⟨_, _, _, _, _, _, _, plan, hmakes, hentered⟩ := ih.makes hc hd ha hn
        refine ⟨plan, _, planFor_of_makes hmemo hmakes, ?_⟩
        exact List.Subset.trans (List.Subset.trans (entered_subset_enter s d.key) hentered)
          (entered_subset_finish _ _ _)
    · obtain ⟨rest, visited', s', hrest, hs', hvisited⟩ := ih.gather (plan.parents.map (·.substitute m)) ha
        (Nat.le_of_lt_succ hn)
      exact ⟨_, visited', s', planSignatures_of_gather hrest, hs', hvisited⟩
    · by_cases hv : r.key ∈ visited
      · exact ⟨[], visited, s, interfaceSignatures_of_mem hv, List.Subset.refl _, List.Subset.refl _⟩
      have hnext : r.key ∈ c.knownKeys → c.querySteps a (c.unvisited (r.key :: visited)) < n := by
        intro hknown
        have hlt := unvisited_cons_lt hknown hv
        rw [querySteps] at hn ⊢
        omega
      cases hl : c.draftLink? s.underWay r.key with
      | some l =>
        have hlink := (Option.filter_eq_some_iff.1 hl).1
        have hnext := hnext (key_mem_knownKeys_of_linkTo? hlink)
        obtain ⟨e, he, hel, -⟩ := mem_of_linkTo? hc hlink
        have hfind : c.declarations.find? l.source = some e := by
          rw [(DeclarationSet.link?_cases ((link?_eq hc he).symm.trans hel)).1, DeclarationSet.find?,
            ← TypeDeclaration.key, DeclarationSet.get?_key he]
        obtain ⟨hdrafted, -, hway⟩ := draftLink?_cases hc hl hfind
        obtain ⟨plan, s₁, hplan, hs₁⟩ := ih.asked hc hdrafted hway ha (by rw [querySteps] at hnext; omega)
        obtain ⟨found, visited', s', hfound, hs', hvisited⟩ := ih.planSignatures plan
          (plan.ref.bindings r) _ (Nat.le_trans (ahead_le hs₁) ha) hnext
        exact ⟨found, visited', s', interfaceSignatures_of_draftLink? hv hl hfind hplan hfound,
          List.Subset.trans hs₁ hs', List.Subset.trans (List.subset_cons_self _ _) hvisited⟩
      | none =>
        cases hfind : c.declarations.find? r with
        | none =>
          exact ⟨[], _, s, interfaceSignatures_of_undeclared hv hl hfind, List.Subset.refl _,
            List.subset_cons_self _ _⟩
        | some e =>
          obtain ⟨rest, visited', s', hrest, hs', hvisited⟩ := ih.gather (c.declaredParents e r) ha
            (Nat.le_of_lt (hnext (key_mem_knownKeys_of_find? hfind)))
          exact ⟨_, visited', s', interfaceSignatures_of_declared hv hl hfind hrest, hs',
            List.Subset.trans (List.subset_cons_self _ _) hvisited⟩

theorem exists_planFor (hc : ofDeclarations c.declarations = .ok c) (hd : c.IsDrafted d l) (s : Drafts) :
    ∃ plan s', c.planFor c.draftingSteps d l s = .ok (plan, s') := by
  have hheight := length_lineage_le hc hd.declared
  rw [lineage, List.length_cons] at hheight
  have hahead : c.ahead (enter s d.key) ≤ c.declarations.types.length := List.length_filter_le _ _
  obtain ⟨plan, s', h, -⟩ := (endsAt hc c.draftingSteps).planFor hd hahead (by
    rw [planSteps, draftingSteps]
    nlinarith)
  exact ⟨plan, s', h⟩

end Conventions

end Wiring
