import Wiring.Proofs.Plan.Redeclaration
import Wiring.Proofs.Plan.Steps

/-!
Plans made anew each time that they are asked for, with none kept and none under way. Where no type asks for itself
these are the plans that runs keep, so what a run has kept when it comes to a type makes no difference to its plan.
-/

namespace Wiring

def gatherPlain (f : List TypeKey → TypeRef → Option Signatures) (visited : List TypeKey) :
    List TypeRef → Option Signatures
  | [] => some ([], visited)
  | r :: rs => do
    let (found, visited) ← f visited r
    let (more, visited) ← gatherPlain f visited rs
    return (found ++ more, visited)

def signaturesOfBase (make : TypeDeclaration → InterfaceLink → Option InterfacePlan)
    (ask : InterfacePlan → Bindings → Option Signatures) : Option (Ancestor × InterfaceLink) → Option (List String)
  | none => some []
  | some (a, al) => do
    let base ← make a.declaration al
    let (found, _) ← ask base (base.ref.bindings (base.ref.withArguments a.ref.arguments))
    return found

namespace Conventions

mutual

def plainPlan (c : Conventions) : (steps : Nat) → TypeDeclaration → InterfaceLink → Option InterfacePlan
  | 0, _, _ => none
  | steps + 1, d, l => do
    let fromBase ← signaturesOfBase (plainPlan c steps) (plainPlanSignatures c steps []) (c.draftBase? d)
    let listed := (c.draftParents d l).drop (c.baseParent? d).toList.length
    let fromParents ← listed.mapM (plainSignatures c steps [])
    let fromAncestors ← (c.ancestorInterfaces d).mapM (plainSignatures c steps [])
    return draft d l (c.draftParents d l)
      (fromBase ++ fromParents.flatMap Prod.fst ++ fromAncestors.flatMap Prod.fst)

def plainPlanSignatures (c : Conventions) :
    (steps : Nat) → List TypeKey → InterfacePlan → Bindings → Option Signatures
  | 0, _, _, _ => none
  | steps + 1, visited, plan, m => do
    let (found, visited) ← gatherPlain (plainSignatures c steps) visited (plan.parents.map (·.substitute m))
    return (plan.members.map (·.boundSignature m) ++ found, visited)

def plainSignatures (c : Conventions) : (steps : Nat) → List TypeKey → TypeRef → Option Signatures
  | 0, _, _ => none
  | steps + 1, visited, r =>
    if r.key ∈ visited then some ([], visited)
    else
      match c.drafted? r.key with
      | some (d, l) => do
        let plan ← plainPlan c steps d l
        plainPlanSignatures c steps (r.key :: visited) plan (plan.ref.bindings r)
      | none =>
        match c.declarations.find? r with
        | none => some ([], r.key :: visited)
        | some d => do
          let (found, visited) ← gatherPlain (plainSignatures c steps) (r.key :: visited) (c.declaredParents d r)
          return (d.members.map (·.boundSignature (d.ref.bindings r)) ++ found, visited)

end

def Settles {α : Type} (f : Nat → Option α) (a : α) : Prop :=
  ∃ n₀, ∀ n, n₀ ≤ n → f n = some a

namespace Settles

variable {α β : Type} {f : Nat → Option α} {a : α}

lemma unique {b : α} (ha : Settles f a) (hb : Settles f b) : a = b := by
  obtain ⟨m, hm⟩ := ha
  obtain ⟨n, hn⟩ := hb
  exact Option.some.inj ((hm (m + n) (Nat.le_add_right _ _)).symm.trans (hn (m + n) (Nat.le_add_left _ _)))

lemma const (a : α) : Settles (fun _ => some a) a :=
  ⟨0, fun _ _ => rfl⟩

lemma bind {g : Nat → α → Option β} {b : β} (hf : Settles f a) (hg : Settles (g · a) b) :
    Settles (fun n => f n >>= g n) b := by
  obtain ⟨m, hm⟩ := hf
  obtain ⟨n, hn⟩ := hg
  refine ⟨max m n, fun k hk => ?_⟩
  change f k >>= g k = _
  rw [hm k (Nat.le_trans (Nat.le_max_left m n) hk)]
  exact hn k (Nat.le_trans (Nat.le_max_right m n) hk)

lemma of_succ (h : Settles (fun n => f (n + 1)) a) : Settles f a := by
  obtain ⟨m, hm⟩ := h
  refine ⟨m + 1, fun n hn => ?_⟩
  cases n with
  | zero => exact absurd hn (Nat.not_succ_le_zero m)
  | succ n => exact hm n (Nat.le_of_succ_le_succ hn)

lemma mapM_cons {g : Nat → β → Option α} {b : β} {bs : List β} {as : List α} (h : Settles (g · b) a)
    (hs : Settles (fun n => bs.mapM (g n)) as) : Settles (fun n => (b :: bs).mapM (g n)) (a :: as) := by
  simp only [List.mapM_cons]
  exact h.bind (hs.bind (const _))

lemma gather_cons {g : Nat → List TypeKey → TypeRef → Option Signatures} {r : TypeRef} {rs : List TypeRef}
    {visited middle visited' : List TypeKey} {first rest : List String} (h : Settles (g · visited r) (first, middle))
    (hs : Settles (fun n => gatherPlain (g n) middle rs) (rest, visited')) :
    Settles (fun n => gatherPlain (g n) visited (r :: rs)) (first ++ rest, visited') := by
  simp only [gatherPlain]
  exact h.bind (hs.bind (const _))

end Settles

def Calm (c : Conventions) (r : TypeRef) : Prop :=
  ∀ q, Relation.ReflTransGen (fun x y => y ∈ c.needed x) r q →
    ∀ d l, c.IsDrafted d l → l.interface.key = q.key → ¬c.AsksForItself d

/-- Neither a type nor one whose interface it asks for asks for itself. -/
def Independent (c : Conventions) (d : TypeDeclaration) : Prop :=
  ∀ l, c.link? d = some l → ∀ r ∈ c.asked d l, c.Calm r

structure PlanOf (c : Conventions) (d : TypeDeclaration) (l : InterfaceLink) (plan : InterfacePlan) : Prop where
  shape : ∃ known, plan = draft d l (c.draftParents d l) known
  plain : c.Independent d → Settles (c.plainPlan · d l) plan

structure Follows (c : Conventions) (s s' : Drafts) : Prop where
  plans : ∀ k plan, Assoc.find? k s'.plans = some plan → ∃ d l, c.IsDrafted d l ∧ d.key = k ∧ c.PlanOf d l plan
  underWay : s'.underWay ⊆ s.underWay

variable {c : Conventions} {n : Nat} {d : TypeDeclaration} {l : InterfaceLink} {s s' s₁ : Drafts}
  {plan : InterfacePlan} {visited visited' underWay : List TypeKey} {found : List String} {r q : TypeRef}
  {m : Bindings}

lemma Follows.trans (h : Follows c s s₁) (h' : Follows c s₁ s') : Follows c s s' where
  plans := h'.plans
  underWay := List.Subset.trans h'.underWay h.underWay

lemma Follows.self (h : Follows c s s') : Follows c s' s' where
  plans := h.plans
  underWay := List.Subset.refl _

lemma Follows.enter (h : Follows c s s) : Follows c (enter s d.key) (enter s d.key) where
  plans := h.plans
  underWay := List.Subset.refl _

lemma Follows.finish (h : Follows c (Conventions.enter s d.key) s₁) (hd : c.IsDrafted d l) (hplan : c.PlanOf d l plan) :
    Follows c s (finish s₁ d.key plan) where
  plans k other hk := by
    rw [Conventions.finish, Assoc.find?_put] at hk
    split at hk
    · rename_i hkey
      cases hk
      exact ⟨d, l, hd, hkey, hplan⟩
    · exact h.plans k other hk
  underWay k hk := by
    obtain ⟨hk, hne⟩ := List.mem_filter.1 hk
    exact (List.mem_cons.1 (h.underWay hk)).resolve_left (of_decide_eq_true hne)

lemma Waits.mono {underWay' : List TypeKey} (h : c.Waits underWay r) (hsub : underWay' ⊆ underWay) :
    c.Waits underWay' r :=
  fun u hu => h u (hsub hu)

lemma Calm.step (h : c.Calm r) (hq : q ∈ c.needed r) : c.Calm q :=
  fun p hp => h p (.head hq hp)

lemma Calm.independent (hc : ofDeclarations c.declarations = .ok c) (h : c.Calm r) (hd : c.IsDrafted d l)
    (hr : r.key = l.interface.key) : c.Independent d := by
  intro l' hl' q hq
  cases hd.linked.symm.trans hl'
  exact h.step (asked_subset_needed hc hd hr hq)

lemma Calm.not_underWay (h : c.Calm r) (hwaits : c.Waits underWay r) (hd : c.IsDrafted d l)
    (hr : l.interface.key = r.key) : d.key ∉ underWay := by
  intro hmem
  obtain ⟨e, el, he, hkey, hasks⟩ := hwaits _ hmem
  obtain ⟨rfl, rfl⟩ := he.eq_of_key_eq hd hkey
  exact h r .refl e el he hr ⟨el, he.linked, r, hasks, hr.symm⟩

structure FollowsAt (c : Conventions) (n : Nat) : Prop where
  planFor : ∀ {d l s plan s'}, c.IsDrafted d l → Follows c s s → c.WaitsFor s.underWay l.interface.key →
    c.planFor n d l s = .ok (plan, s') → Follows c s s' ∧ c.PlanOf d l plan
  planSignatures : ∀ {plan m visited s found visited' s'}, Follows c s s →
    (∀ p ∈ plan.parents, c.Waits s.underWay (p.substitute m)) →
    c.planSignatures n visited plan m s = .ok ((found, visited'), s') →
    Follows c s s' ∧ ((∀ p ∈ plan.parents, c.Calm (p.substitute m)) →
      Settles (c.plainPlanSignatures · visited plan m) (found, visited'))
  interfaceSignatures : ∀ {r visited s found visited' s'}, Follows c s s → c.Waits s.underWay r →
    c.interfaceSignatures n visited r s = .ok ((found, visited'), s') →
    Follows c s s' ∧ (c.Calm r → Settles (c.plainSignatures · visited r) (found, visited'))

lemma FollowsAt.planned (ih : c.FollowsAt n) (hc : ofDeclarations c.declarations = .ok c) (hd : c.IsDrafted d l)
    (hs : Follows c s s) (hplan : c.PlanOf d l plan) (hr : r.key = l.interface.key) (hwaits : c.Waits s.underWay r)
    (h : c.planSignatures n visited plan (plan.ref.bindings r) s = .ok ((found, visited'), s')) :
    Follows c s s' ∧
      (c.Calm r → Settles (c.plainPlanSignatures · visited plan (plan.ref.bindings r)) (found, visited')) := by
  have hneeded : ∀ p ∈ plan.parents, p.substitute (plan.ref.bindings r) ∈ c.needed r := by
    obtain ⟨known, rfl⟩ := hplan.shape
    intro p hp
    exact plannedParents_subset_needed hc hd hr (List.mem_map_of_mem hp)
  obtain ⟨hfollows, hsettles⟩ := ih.planSignatures hs (fun p hp => hwaits.step (hneeded p hp)) h
  exact ⟨hfollows, fun hcalm => hsettles fun p hp => hcalm.step (hneeded p hp)⟩

lemma FollowsAt.mapM (ih : c.FollowsAt n) {rs : List TypeRef} {results : List Signatures} (hs : Follows c s s)
    (hrs : ∀ r ∈ rs, c.Waits s.underWay r) (h : rs.mapM (c.interfaceSignatures n []) s = .ok (results, s')) :
    Follows c s s' ∧
      ((∀ r ∈ rs, c.Calm r) → Settles (fun n => rs.mapM (c.plainSignatures n [])) results) := by
  induction rs generalizing s results with
  | nil =>
    cases h
    exact ⟨hs, fun _ => .const _⟩
  | cons r rs ihrs =>
    obtain ⟨⟨found, visited⟩, s₁, rest, hfirst, hrest, rfl⟩ := Drafting.mapM_cons_eq_ok h
    obtain ⟨hr, hrs⟩ := List.forall_mem_cons.1 hrs
    obtain ⟨hfollows, hsettles⟩ := ih.interfaceSignatures hs hr hfirst
    obtain ⟨hfollows', hsettles'⟩ := ihrs hfollows.self (fun q hq => (hrs q hq).mono hfollows.underWay) hrest
    refine ⟨hfollows.trans hfollows', fun hcalm => ?_⟩
    obtain ⟨hcalm, hcalms⟩ := List.forall_mem_cons.1 hcalm
    exact (hsettles hcalm).mapM_cons (hsettles' hcalms)

lemma FollowsAt.gather (ih : c.FollowsAt n) {rs : List TypeRef} (hs : Follows c s s)
    (hrs : ∀ r ∈ rs, c.Waits s.underWay r)
    (h : gather (c.interfaceSignatures n) visited rs s = .ok ((found, visited'), s')) :
    Follows c s s' ∧
      ((∀ r ∈ rs, c.Calm r) → Settles (fun n => gatherPlain (c.plainSignatures n) visited rs) (found, visited')) := by
  induction rs generalizing visited s found with
  | nil =>
    cases h
    exact ⟨hs, fun _ => .const _⟩
  | cons r rs ihrs =>
    obtain ⟨first, middle, s₁, rest, hfirst, hrest, rfl⟩ := Drafting.gather_cons_eq_ok h
    obtain ⟨hr, hrs⟩ := List.forall_mem_cons.1 hrs
    obtain ⟨hfollows, hsettles⟩ := ih.interfaceSignatures hs hr hfirst
    obtain ⟨hfollows', hsettles'⟩ := ihrs hfollows.self (fun q hq => (hrs q hq).mono hfollows.underWay) hrest
    refine ⟨hfollows.trans hfollows', fun hcalm => ?_⟩
    obtain ⟨hcalm, hcalms⟩ := List.forall_mem_cons.1 hcalm
    exact (hsettles hcalm).gather_cons (hsettles' hcalms)

lemma FollowsAt.base (ih : c.FollowsAt n) (hc : ofDeclarations c.declarations = .ok c) (hd : c.IsDrafted d l)
    (hs : Follows c (Conventions.enter s d.key) (Conventions.enter s d.key))
    (hwaits : c.WaitsFor s.underWay l.interface.key) {first : List TypeRef}
    (h : BaseRun c n d (Conventions.enter s d.key) first found s₁) :
    first = (c.baseParent? d).toList ∧ Follows c (Conventions.enter s d.key) s₁ ∧
      (c.Independent d → Settles (fun n =>
        signaturesOfBase (c.plainPlan n) (c.plainPlanSignatures n []) (c.draftBase? d)) found) := by
  cases h with
  | none hnobase =>
    rw [baseParent?, hnobase]
    exact ⟨rfl, hs, fun _ => .const _⟩
  | some hbase hplan hfound =>
    rename_i b bl base s₀ visited
    obtain ⟨hb, -⟩ := draftBase?_cases hc hd hbase
    have hasked := baseParent?_mem_asked (l := l) (baseParent?_eq hbase)
    have hparent := hwaits.enter hc hd hasked
    obtain ⟨hfollows, hplanof⟩ := ih.planFor hb hs hparent.waitsFor hplan
    obtain ⟨known, hbaseplan⟩ := hplanof.shape
    have href : base.ref = draftRef b.declaration bl := by
      rw [hbaseplan]
      rfl
    have hkey : ((draftRef b.declaration bl).withArguments b.ref.arguments).key = bl.interface.key := rfl
    rw [← href] at hparent hkey hasked
    obtain ⟨hfollows', hsettles⟩ := ih.planned hc hb hfollows.self hplanof hkey (hparent.mono hfollows.underWay) hfound
    refine ⟨by rw [baseParent?_eq hbase, href]; rfl, hfollows.trans hfollows', fun hind => ?_⟩
    have hcalm := hind l hd.linked _ hasked
    rw [hbase]
    simp only [signaturesOfBase]
    exact (hplanof.plain (hcalm.independent hc hb hkey)).bind ((hsettles hcalm).bind (.const _))

lemma FollowsAt.makes (ih : c.FollowsAt n) (hc : ofDeclarations c.declarations = .ok c) (hd : c.IsDrafted d l)
    (hs : Follows c s s) (hwaits : c.WaitsFor s.underWay l.interface.key) {first : List TypeRef}
    {fromBase : List String} {fromParents fromAncestors : List Signatures} {s₂ s₃ : Drafts}
    (h : Makes c n d l first fromBase fromParents fromAncestors (Conventions.enter s d.key) s₁ s₂ s₃ plan) :
    Follows c (Conventions.enter s d.key) s₃ ∧ c.PlanOf d l plan := by
  have hasked : ∀ q ∈ c.asked d l, c.Waits (Conventions.enter s d.key).underWay q := fun q hq => hwaits.enter hc hd hq
  obtain ⟨rfl, hfollows₁, hsettles₁⟩ := ih.base hc hd hs.enter hwaits h.base
  obtain ⟨hfollows₂, hsettles₂⟩ := ih.mapM hfollows₁.self (fun q hq =>
    (hasked q (List.mem_append_left _ (List.mem_of_mem_drop hq))).mono hfollows₁.underWay) h.parents
  have hfollows := hfollows₁.trans hfollows₂
  obtain ⟨hfollows₃, hsettles₃⟩ := ih.mapM hfollows₂.self (fun q hq =>
    (hasked q (List.mem_append_right _ hq)).mono hfollows.underWay) h.ancestors
  refine ⟨hfollows.trans hfollows₃, ⟨_, h.plan⟩, fun hind => ?_⟩
  have hcalm := hind l hd.linked
  rw [h.plan]
  refine .of_succ ?_
  simp only [plainPlan]
  exact (hsettles₁ hind).bind ((hsettles₂ fun q hq => hcalm q (List.mem_append_left _ (List.mem_of_mem_drop hq))).bind
    ((hsettles₃ fun q hq => hcalm q (List.mem_append_right _ hq)).bind (.const _)))

lemma followsAt (hc : ofDeclarations c.declarations = .ok c) (n : Nat) : c.FollowsAt n := by
  -- on the steps, for all states that are followed, since each call leaves plans behind for the next
  induction n with
  | zero =>
    refine ⟨fun _ _ _ h => ?_, fun _ _ h => ?_, fun _ _ h => ?_⟩
    · rw [planFor] at h
      cases h
    · rw [planSignatures] at h
      cases h
    · rw [interfaceSignatures] at h
      cases h
  | succ n ih =>
    refine ⟨fun {d l s plan s'} hd hs hwaits h => ?_, fun {plan m visited s found visited' s'} hs hwaits h => ?_,
      fun {r visited s found visited' s'} hs hwaits h => ?_⟩
    · obtain ⟨hmemo, rfl⟩ | ⟨-, first, fromBase, fromParents, fromAncestors, s₁, s₂, s₃, hmakes, rfl⟩ :=
        planFor_cases h
      · obtain ⟨e, el, he, hkey, hplanof⟩ := hs.plans _ _ hmemo
        obtain ⟨rfl, rfl⟩ := he.eq_of_key_eq hd hkey
        exact ⟨hs, hplanof⟩
      · obtain ⟨hfollows, hplanof⟩ := ih.makes hc hd hs hwaits hmakes
        exact ⟨hfollows.finish hd hplanof, hplanof⟩
    · obtain ⟨rest, hrest, rfl⟩ := planSignatures_cases h
      have hparents : ∀ q ∈ plan.parents.map (·.substitute m), c.Waits s.underWay q := by
        rintro q hq
        obtain ⟨p, hp, rfl⟩ := List.mem_map.1 hq
        exact hwaits p hp
      obtain ⟨hfollows, hsettles⟩ := ih.gather hs hparents hrest
      refine ⟨hfollows, fun hcalm => .of_succ ?_⟩
      simp only [plainPlanSignatures]
      refine (hsettles fun q hq => ?_).bind (.const _)
      obtain ⟨p, hp, rfl⟩ := List.mem_map.1 hq
      exact hcalm p hp
    · obtain ⟨hv, rfl, rfl, rfl⟩ | ⟨hv, hcases⟩ := interfaceSignatures_cases h
      · refine ⟨hs, fun _ => .of_succ ?_⟩
        simp only [plainSignatures, if_pos hv]
        exact .const _
      obtain ⟨l, d, plan, s₁, hlink, hsource, hplan, hfound⟩ | ⟨hlink, hnone, rfl, rfl, rfl⟩ |
        ⟨e, rest, hlink, he, hrest, rfl⟩ := hcases
      · obtain ⟨hd, hkey, -⟩ := draftLink?_cases hc hlink hsource
        obtain ⟨hfollows, hplanof⟩ := ih.planFor hd hs (hkey ▸ hwaits.waitsFor) hplan
        obtain ⟨hfollows', hsettles⟩ := ih.planned hc hd hfollows.self hplanof hkey.symm
          (hwaits.mono hfollows.underWay) hfound
        refine ⟨hfollows.trans hfollows', fun hcalm => .of_succ ?_⟩
        simp only [plainSignatures, if_neg hv, (drafted?_iff hc).2 ⟨hd, hkey⟩]
        exact (hplanof.plain (hcalm.independent hc hd hkey.symm)).bind (hsettles hcalm)
      · refine ⟨hs, fun hcalm => .of_succ ?_⟩
        have hnothing := drafted?_eq_none_of_idle hc (fun _ _ => hcalm.not_underWay hwaits) hlink
        simp only [plainSignatures, if_neg hv, hnothing, hnone]
        exact .const _
      · have hneeded : ∀ q ∈ c.declaredParents e r, q ∈ c.needed r :=
          fun q hq => declaredParents_subset_needed hc he hq
        obtain ⟨hfollows, hsettles⟩ := ih.gather hs (fun q hq => hwaits.step (hneeded q hq)) hrest
        refine ⟨hfollows, fun hcalm => .of_succ ?_⟩
        have hnothing := drafted?_eq_none_of_idle hc (fun _ _ => hcalm.not_underWay hwaits) hlink
        simp only [plainSignatures, if_neg hv, hnothing, he]
        exact (hsettles fun q hq => hcalm.step (hneeded q hq)).bind (.const _)

/-! All plans. -/

lemma exists_draftAll (hc : ofDeclarations c.declarations = .ok c) {ds : List TypeDeclaration}
    (hds : ds ⊆ c.declarations.types) (hs : Follows c s s) (hway : s.underWay = []) :
    ∃ plans s', c.draftAll ds s = .ok (plans, s') ∧
      List.Forall₂ (fun d plan => ∃ l, c.IsDrafted d l ∧ c.PlanOf d l plan) (ds.filter c.synthesizesInterface)
        plans := by
  induction ds generalizing s with
  | nil => exact ⟨[], s, rfl, .nil⟩
  | cons d ds ih =>
    obtain ⟨hd, hds⟩ := List.cons_subset.1 hds
    rw [draftAll]
    cases hl : (c.link? d).filter (·.synthesized) with
    | none =>
      have hnot : ¬c.synthesizesInterface d := by
        intro h
        obtain ⟨l, hl', hs⟩ := (Option.any_eq_true _ _).1 h
        rw [hl', Option.filter_some, if_pos hs] at hl
        cases hl
      rw [List.filter_cons_of_neg hnot]
      exact ih hds hs hway
    | some l =>
      obtain ⟨hlink, hsynthesized⟩ := Option.filter_eq_some_iff.1 hl
      have hdrafted : c.IsDrafted d l := ⟨hd, hlink, hsynthesized⟩
      have hwaits : c.WaitsFor s.underWay l.interface.key := by
        rw [hway]
        exact fun u hu => absurd hu List.not_mem_nil
      obtain ⟨plan, s₁, hplan⟩ := exists_planFor hc hdrafted s
      obtain ⟨hfollows, hplanof⟩ := (followsAt hc _).planFor hdrafted hs hwaits hplan
      obtain ⟨plans, s', hrest, hall⟩ := ih hds hfollows.self (List.subset_nil.1 (hway ▸ hfollows.underWay))
      have hsyn : c.synthesizesInterface d := (Option.any_eq_true _ _).2 ⟨l, hlink, hsynthesized⟩
      refine ⟨plan :: plans, s', ?_, ?_⟩
      · change (c.planFor _ _ _ >>= _) s = _
        rw [Drafting.bind_eq hplan, Drafting.bind_eq hrest]
        rfl
      · rw [List.filter_cons_of_pos hsyn]
        exact .cons ⟨l, hdrafted, hplanof⟩ hall

theorem exists_interfacePlans (hc : ofDeclarations c.declarations = .ok c) :
    ∃ plans, c.interfacePlans = .ok plans ∧
      List.Forall₂ (fun d plan => ∃ l, c.IsDrafted d l ∧ c.PlanOf d l plan)
        (c.declarations.types.filter c.synthesizesInterface) plans := by
  have hs : Follows c {} {} := ⟨fun _ _ hk => (by cases hk), List.Subset.refl _⟩
  obtain ⟨plans, s', hrun, hall⟩ := exists_draftAll hc (List.Subset.refl _) hs rfl
  refine ⟨plans, ?_, hall⟩
  rw [interfacePlans, StateT.run, hrun]
  rfl

variable {ds : List TypeDeclaration} {plans : List InterfacePlan}

lemma exists_planOf (h : List.Forall₂ (fun d plan => ∃ l, c.IsDrafted d l ∧ c.PlanOf d l plan) ds plans)
    (hplan : plan ∈ plans) : ∃ d l, c.IsDrafted d l ∧ c.PlanOf d l plan := by
  induction h with
  | nil => cases hplan
  | cons hfirst _ ih =>
    obtain rfl | hplan := List.mem_cons.1 hplan
    · exact ⟨_, hfirst⟩
    · exact ih hplan

lemma map_source_eq (h : List.Forall₂ (fun d plan => ∃ l, c.IsDrafted d l ∧ c.PlanOf d l plan) ds plans) :
    plans.map (·.source) = ds.map (·.ref) := by
  induction h with
  | nil => rfl
  | cons hfirst _ ih =>
    obtain ⟨l, -, ⟨known, rfl⟩, -⟩ := hfirst
    rw [List.map_cons, List.map_cons, ih]
    rfl

end Conventions

end Wiring
