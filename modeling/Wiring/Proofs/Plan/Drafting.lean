import Mathlib.Logic.Relation
import Wiring.Plan.Interface
import Wiring.Proofs.Assoc
import Wiring.Proofs.Conventions.Links

/-!
Runs that make plans of interfaces, call by call. All of a plan but its members follows from the declarations alone,
and so does what may be asked for on the way to it.
-/

namespace Wiring

namespace Drafting

variable {α β : Type} {x : Drafting α} {f : α → Drafting β} {s s' : Drafts}

lemma bind_eq_ok {b : β} (h : (x >>= f) s = .ok (b, s')) :
    ∃ a s₁, x s = .ok (a, s₁) ∧ f a s₁ = .ok (b, s') := by
  obtain ⟨⟨a, s₁⟩, hx, hf⟩ := Except.bind_eq_ok.1 h
  exact ⟨a, s₁, hx, hf⟩

lemma get_bind (f : Drafts → Drafting α) (s : Drafts) : (get >>= f) s = f s s :=
  rfl

lemma mapM_cons_eq_ok {f : α → Drafting β} {a : α} {as : List α} {bs : List β}
    (h : (a :: as).mapM f s = .ok (bs, s')) :
    ∃ b s₁ bs', f a s = .ok (b, s₁) ∧ as.mapM f s₁ = .ok (bs', s') ∧ bs = b :: bs' := by
  rw [List.mapM_cons] at h
  obtain ⟨b, s₁, hb, h⟩ := bind_eq_ok h
  obtain ⟨bs', s₂, hbs, h⟩ := bind_eq_ok h
  cases h
  exact ⟨b, s₁, bs', hb, hbs, rfl⟩

lemma gather_cons_eq_ok {f : List TypeKey → TypeRef → Drafting Signatures} {visited visited' : List TypeKey}
    {r : TypeRef} {rs : List TypeRef} {found : List String}
    (h : gather f visited (r :: rs) s = .ok ((found, visited'), s')) :
    ∃ first middle s₁ rest, f visited r s = .ok ((first, middle), s₁) ∧
      gather f middle rs s₁ = .ok ((rest, visited'), s') ∧ found = first ++ rest := by
  rw [gather] at h
  obtain ⟨⟨first, middle⟩, s₁, hfirst, h⟩ := bind_eq_ok h
  obtain ⟨⟨rest, last⟩, s₂, hrest, h⟩ := bind_eq_ok h
  cases h
  exact ⟨first, middle, s₁, rest, hfirst, hrest, rfl⟩

end Drafting

namespace Conventions

open Drafting

variable {c : Conventions} {set : DeclarationSet} {n : Nat} {d : TypeDeclaration} {l : InterfaceLink}
  {s s' s₁ : Drafts} {plan : InterfacePlan} {visited visited' : List TypeKey} {found : List String} {m : Bindings}
  {r : TypeRef} {k : TypeKey}

/-! What one call comes to. -/

inductive BaseRun (c : Conventions) (n : Nat) (d : TypeDeclaration) (s : Drafts) :
    List TypeRef → List String → Drafts → Prop
  | none : c.draftBase? d = none → BaseRun c n d s [] [] s
  | some {a : Ancestor} {al : InterfaceLink} {base : InterfacePlan} {s₀ s₁ : Drafts} {found : List String}
      {visited : List TypeKey} : c.draftBase? d = some (a, al) →
      c.planFor n a.declaration al s = .ok (base, s₀) →
      c.planSignatures n [] base (base.ref.bindings (base.ref.withArguments a.ref.arguments)) s₀ =
        .ok ((found, visited), s₁) →
      BaseRun c n d s [base.ref.withArguments a.ref.arguments] found s₁

structure Makes (c : Conventions) (n : Nat) (d : TypeDeclaration) (l : InterfaceLink) (first : List TypeRef)
    (fromBase : List String) (fromParents fromAncestors : List Signatures) (s s₁ s₂ s₃ : Drafts)
    (plan : InterfacePlan) : Prop where
  base : BaseRun c n d s first fromBase s₁
  parents : ((c.listedParents d l first).drop first.length).mapM (c.interfaceSignatures n []) s₁ =
    .ok (fromParents, s₂)
  ancestors : (c.ancestorInterfaces d).mapM (c.interfaceSignatures n []) s₂ = .ok (fromAncestors, s₃)
  plan : plan = draft d l (c.listedParents d l first)
    (fromBase ++ fromParents.flatMap Prod.fst ++ fromAncestors.flatMap Prod.fst)

def enter (s : Drafts) (k : TypeKey) : Drafts :=
  { s with underWay := k :: s.underWay }

def finish (s : Drafts) (k : TypeKey) (plan : InterfacePlan) : Drafts where
  plans := Assoc.put k plan s.plans
  underWay := s.underWay.filter (· ≠ k)

lemma planFor_cases (h : c.planFor (n + 1) d l s = .ok (plan, s')) :
    Assoc.find? d.key s.plans = some plan ∧ s' = s ∨
      Assoc.find? d.key s.plans = none ∧ ∃ first fromBase fromParents fromAncestors s₁ s₂ s₃,
        Makes c n d l first fromBase fromParents fromAncestors (enter s d.key) s₁ s₂ s₃ plan ∧
        s' = finish s₃ d.key plan := by
  rw [planFor, get_bind] at h
  cases hmemo : Assoc.find? d.key s.plans with
  | some kept =>
    rw [hmemo] at h
    cases h
    exact Or.inl ⟨rfl, rfl⟩
  | none =>
    rw [hmemo] at h
    refine Or.inr ⟨rfl, ?_⟩
    obtain ⟨⟨⟩, s₀, henter, h⟩ := bind_eq_ok h
    cases henter
    have hrest : ∀ {first fromBase s₁}, BaseRun c n d (enter s d.key) first fromBase s₁ →
        (do
          let fromParents ← ((c.listedParents d l first).drop first.length).mapM (c.interfaceSignatures n [])
          let fromAncestors ← (c.ancestorInterfaces d).mapM (c.interfaceSignatures n [])
          let plan := draft d l (c.listedParents d l first)
            (fromBase ++ fromParents.flatMap Prod.fst ++ fromAncestors.flatMap Prod.fst)
          modify fun s => finish s d.key plan
          return plan : Drafting InterfacePlan) s₁ = .ok (plan, s') →
        ∃ first fromBase fromParents fromAncestors s₁ s₂ s₃,
          Makes c n d l first fromBase fromParents fromAncestors (enter s d.key) s₁ s₂ s₃ plan ∧
          s' = finish s₃ d.key plan := by
      intro first fromBase s₁ hbase h
      obtain ⟨fromParents, s₂, hparents, h⟩ := bind_eq_ok h
      obtain ⟨fromAncestors, s₃, hancestors, h⟩ := bind_eq_ok h
      obtain ⟨⟨⟩, s₄, hfinish, h⟩ := bind_eq_ok h
      cases hfinish
      cases h
      exact ⟨first, fromBase, fromParents, fromAncestors, s₁, s₂, s₃, ⟨hbase, hparents, hancestors, rfl⟩, rfl⟩
    cases hbase : c.draftBase? d with
    | none =>
      rw [hbase] at h
      exact hrest (.none hbase) h
    | some found =>
      obtain ⟨a, al⟩ := found
      rw [hbase] at h
      obtain ⟨base, s₁, hplan, h⟩ := bind_eq_ok h
      obtain ⟨⟨found, visited⟩, s₂, hfound, h⟩ := bind_eq_ok h
      exact hrest (.some hbase hplan hfound) h

lemma planSignatures_cases (h : c.planSignatures (n + 1) visited plan m s = .ok ((found, visited'), s')) :
    ∃ rest, gather (c.interfaceSignatures n) visited (plan.parents.map (·.substitute m)) s =
        .ok ((rest, visited'), s') ∧ found = plan.members.map (·.boundSignature m) ++ rest := by
  rw [planSignatures] at h
  obtain ⟨⟨rest, last⟩, s₁, hrest, h⟩ := bind_eq_ok h
  cases h
  exact ⟨rest, hrest, rfl⟩

def declaredParents (c : Conventions) (e : TypeDeclaration) (r : TypeRef) : List TypeRef :=
  e.interfaceParents.map fun p => c.bind (p.substitute (e.ref.bindings r)) e.package

lemma interfaceSignatures_cases (h : c.interfaceSignatures (n + 1) visited r s = .ok ((found, visited'), s')) :
    r.key ∈ visited ∧ found = [] ∧ visited' = visited ∧ s' = s ∨
      r.key ∉ visited ∧
        ((∃ l d plan s₁, c.draftLink? s.underWay r.key = some l ∧ c.declarations.find? l.source = some d ∧
            c.planFor n d l s = .ok (plan, s₁) ∧
            c.planSignatures n (r.key :: visited) plan (plan.ref.bindings r) s₁ = .ok ((found, visited'), s')) ∨
          c.draftLink? s.underWay r.key = none ∧ c.declarations.find? r = none ∧ found = [] ∧
            visited' = r.key :: visited ∧ s' = s ∨
          ∃ e rest, c.draftLink? s.underWay r.key = none ∧ c.declarations.find? r = some e ∧
            gather (c.interfaceSignatures n) (r.key :: visited) (c.declaredParents e r) s = .ok ((rest, visited'), s') ∧
            found = e.members.map (·.boundSignature (e.ref.bindings r)) ++ rest) := by
  rw [interfaceSignatures] at h
  by_cases hv : r.key ∈ visited
  · rw [if_pos hv] at h
    cases h
    exact Or.inl ⟨hv, rfl, rfl, rfl⟩
  · rw [if_neg hv] at h
    refine Or.inr ⟨hv, ?_⟩
    rw [get_bind] at h
    cases hlink : c.draftLink? s.underWay r.key with
    | some l =>
      rw [hlink] at h
      cases hsource : c.declarations.find? l.source with
      | none =>
        simp only [hsource] at h
        cases h
      | some d =>
        simp only [hsource] at h
        obtain ⟨plan, s₁, hplan, h⟩ := bind_eq_ok h
        exact Or.inl ⟨l, d, plan, s₁, rfl, hsource, hplan, h⟩
    | none =>
      rw [hlink] at h
      cases hfind : c.declarations.find? r with
      | none =>
        simp only [hfind] at h
        cases h
        exact Or.inr (Or.inl ⟨rfl, rfl, rfl, rfl, rfl⟩)
      | some e =>
        simp only [hfind] at h
        obtain ⟨⟨rest, last⟩, s₁, hrest, h⟩ := bind_eq_ok h
        cases h
        exact Or.inr (Or.inr ⟨e, rest, rfl, rfl, hrest, rfl⟩)

/-! What follows from the declarations alone. -/

structure IsDrafted (c : Conventions) (d : TypeDeclaration) (l : InterfaceLink) : Prop where
  declared : d ∈ c.declarations.types
  linked : c.link? d = some l
  synthesized : l.synthesized

def drafted? (c : Conventions) (k : TypeKey) : Option (TypeDeclaration × InterfaceLink) :=
  ((c.linkTo? k).filter (·.synthesized)).bind fun l => (c.declarations.find? l.source).map (·, l)

def draftRef (d : TypeDeclaration) (l : InterfaceLink) : TypeRef :=
  l.interface.withArguments d.ref.arguments

def baseParent? (c : Conventions) (d : TypeDeclaration) : Option TypeRef :=
  (c.draftBase? d).map fun b => (draftRef b.1.declaration b.2).withArguments b.1.ref.arguments

def draftParents (c : Conventions) (d : TypeDeclaration) (l : InterfaceLink) : List TypeRef :=
  c.listedParents d l (c.baseParent? d).toList

def asked (c : Conventions) (d : TypeDeclaration) (l : InterfaceLink) : List TypeRef :=
  c.draftParents d l ++ c.ancestorInterfaces d

def plannedParents (c : Conventions) (d : TypeDeclaration) (l : InterfaceLink) (r : TypeRef) : List TypeRef :=
  (c.draftParents d l).map (·.substitute ((draftRef d l).bindings r))

def walkedParents (c : Conventions) (r : TypeRef) : List TypeRef :=
  ((c.drafted? r.key).toList.flatMap fun b => c.plannedParents b.1 b.2 r) ++
    (c.declarations.find? r).toList.flatMap fun e => c.declaredParents e r

abbrev Reaches (c : Conventions) (q r : TypeRef) : Prop :=
  Relation.ReflTransGen (fun x y => y ∈ c.walkedParents x) q r

def needed (c : Conventions) (r : TypeRef) : List TypeRef :=
  c.walkedParents r ++ (c.drafted? r.key).toList.flatMap fun b => c.asked b.1 b.2

def Asks (c : Conventions) (d : TypeDeclaration) (l : InterfaceLink) (r : TypeRef) : Prop :=
  ∃ q ∈ c.asked d l, Relation.ReflTransGen (fun x y => y ∈ c.needed x) q r

def BasesFirst (c : Conventions) : Prop :=
  ∀ d l a al, c.IsDrafted d l → c.draftBase? d = some (a, al) →
    ∀ r, c.Asks a.declaration al r → r.key ≠ l.interface.key

lemma drafted?_iff (hc : ofDeclarations c.declarations = .ok c) :
    c.drafted? k = some (d, l) ↔ c.IsDrafted d l ∧ l.interface.key = k := by
  rw [drafted?]
  constructor
  · intro h
    obtain ⟨l', hl', h⟩ := Option.bind_eq_some_iff.1 h
    obtain ⟨e, he, heq⟩ := Option.map_eq_some_iff.1 h
    cases heq
    obtain ⟨hlink, hs⟩ := Option.filter_eq_some_iff.1 hl'
    obtain ⟨e, hes, hel, hkey⟩ := mem_of_linkTo? hc hlink
    rw [link?_eq hc hes] at hel
    rw [(DeclarationSet.link?_cases hel).1, DeclarationSet.find?, DeclarationSet.get?_key hes] at he
    cases he
    exact ⟨⟨hes, (link?_eq hc hes).trans hel, hs⟩, hkey⟩
  · rintro ⟨h, rfl⟩
    have hlink := (link?_eq hc h.declared).symm.trans h.linked
    rw [linkTo?_interface hc h.declared h.linked, Option.filter_some, if_pos h.synthesized, Option.bind_some,
      (DeclarationSet.link?_cases hlink).1, DeclarationSet.find?, DeclarationSet.get?_key h.declared]
    rfl

lemma draftLink?_cases (hc : ofDeclarations c.declarations = .ok c) {underWay : List TypeKey}
    (h : c.draftLink? underWay k = some l) (hd : c.declarations.find? l.source = some d) :
    c.IsDrafted d l ∧ l.interface.key = k ∧ d.key ∉ underWay := by
  obtain ⟨hlink, hl⟩ := Option.filter_eq_some_iff.1 h
  rw [Bool.and_eq_true, decide_eq_true_iff] at hl
  have hdrafted : c.drafted? k = some (d, l) := by
    rw [drafted?, hlink, Option.filter_some, if_pos hl.1, Option.bind_some, hd]
    rfl
  obtain ⟨hd', hkey⟩ := (drafted?_iff hc).1 hdrafted
  have hsource : l.source = d.ref :=
    (DeclarationSet.link?_cases ((link?_eq hc hd'.declared).symm.trans hd'.linked)).1
  exact ⟨hd', hkey, by simpa [hsource] using hl.2⟩

lemma draftLink?_eq_some (hc : ofDeclarations c.declarations = .ok c) {underWay : List TypeKey}
    (hd : c.IsDrafted d l) (hway : d.key ∉ underWay) : c.draftLink? underWay l.interface.key = some l := by
  have hsource := (DeclarationSet.link?_cases ((link?_eq hc hd.declared).symm.trans hd.linked)).1
  rw [draftLink?, linkTo?_interface hc hd.declared hd.linked, Option.filter_some, if_pos]
  rw [hd.synthesized, hsource, Bool.true_and, decide_eq_true_iff]
  exact hway

lemma drafted?_eq_none_of_idle (hc : ofDeclarations c.declarations = .ok c) {underWay : List TypeKey}
    (hidle : ∀ d l, c.IsDrafted d l → l.interface.key = k → d.key ∉ underWay)
    (hlink : c.draftLink? underWay k = none) : c.drafted? k = none := by
  cases hdrafted : c.drafted? k with
  | none => rfl
  | some b =>
    obtain ⟨hd, hkey⟩ := (drafted?_iff hc).1 hdrafted
    rw [← hkey, draftLink?_eq_some hc hd (hidle _ _ hd hkey)] at hlink
    cases hlink

lemma listedParents_cases (c : Conventions) (d : TypeDeclaration) (l : InterfaceLink) (first : List TypeRef) :
    ∃ rest, c.listedParents d l first = first ++ rest ∧ rest ⊆ c.directInterfaces d false ∧
      ∀ r ∈ c.directInterfaces d false, r ≠ l.interface → r ∈ first ++ rest := by
  rw [listedParents]
  induction c.directInterfaces d false generalizing first with
  | nil => exact ⟨[], (List.append_nil first).symm, List.Subset.refl _, by simp⟩
  | cons q rs ih =>
    rw [List.foldl_cons]
    split
    · rename_i hq
      obtain ⟨rest, hrest, hsub, hall⟩ := ih first
      refine ⟨rest, hrest, List.subset_cons_of_subset q hsub, fun r hr hne => ?_⟩
      obtain rfl | hr := List.mem_cons.1 hr
      · exact List.mem_append_left _ (hq.resolve_left hne)
      · exact hall r hr hne
    · obtain ⟨rest, hrest, hsub, hall⟩ := ih (first ++ [q])
      refine ⟨q :: rest, by rw [hrest, List.append_assoc, List.singleton_append],
        List.cons_subset_cons q hsub, fun r hr hne => ?_⟩
      obtain rfl | hr := List.mem_cons.1 hr
      · exact List.mem_append_right _ List.mem_cons_self
      · simpa using hall r hr hne

lemma subset_listedParents (c : Conventions) (d : TypeDeclaration) (l : InterfaceLink) (first : List TypeRef) :
    first ⊆ c.listedParents d l first := by
  obtain ⟨rest, hrest, -⟩ := listedParents_cases c d l first
  rw [hrest]
  exact List.subset_append_left _ _

lemma mem_members_draft {parents : List TypeRef} {known : List String} {member : MemberDeclaration} :
    member ∈ (draft d l parents known).members ↔
      member ∈ d.members ∧ member.isPublicSurface ∧ member.signature ∉ known := by
  rw [draft, List.mem_filter, Bool.and_eq_true, decide_eq_true_iff]

lemma Asks.step {r' : TypeRef} (h : c.Asks d l r) (hr : r' ∈ c.needed r) : c.Asks d l r' := by
  obtain ⟨q, hq, hqr⟩ := h
  exact ⟨q, hq, hqr.tail hr⟩

lemma Asks.trans {r' : TypeRef} (h : c.Asks d l r) (hr : Relation.ReflTransGen (fun x y => y ∈ c.needed x) r r') :
    c.Asks d l r' := by
  obtain ⟨q, hq, hqr⟩ := h
  exact ⟨q, hq, hqr.trans hr⟩

lemma asks_of_mem (h : r ∈ c.asked d l) : c.Asks d l r :=
  ⟨r, h, .refl⟩

lemma Asks.mem {rs : List TypeRef} (h : c.Asks d l r) (hasked : c.asked d l ⊆ rs)
    (hneeded : ∀ q ∈ rs, c.needed q ⊆ rs) : r ∈ rs := by
  obtain ⟨q, hq, hqr⟩ := h
  induction hqr with
  | refl => exact hasked hq
  | tail _ hstep ih => exact hneeded _ ih hstep

lemma asked_subset_needed (hc : ofDeclarations c.declarations = .ok c) (hd : c.IsDrafted d l)
    (hr : r.key = l.interface.key) : c.asked d l ⊆ c.needed r := by
  intro q hq
  rw [needed, (drafted?_iff hc).2 ⟨hd, hr.symm⟩]
  exact List.mem_append_right _ (by simpa using hq)

lemma mem_walkedParents_iff {q : TypeRef} (hc : ofDeclarations c.declarations = .ok c) :
    q ∈ c.walkedParents r ↔
      (∃ d l, c.IsDrafted d l ∧ r.key = l.interface.key ∧ q ∈ c.plannedParents d l r) ∨
        ∃ e, c.declarations.find? r = some e ∧ q ∈ c.declaredParents e r := by
  rw [walkedParents, List.mem_append, List.mem_flatMap, List.mem_flatMap]
  constructor
  · rintro (⟨⟨d, l⟩, hdrafted, hq⟩ | ⟨e, he, hq⟩)
    · obtain ⟨hd, hkey⟩ := (drafted?_iff hc).1 (Option.mem_toList.1 hdrafted)
      exact Or.inl ⟨d, l, hd, hkey.symm, hq⟩
    · exact Or.inr ⟨e, Option.mem_toList.1 he, hq⟩
  · rintro (⟨d, l, hd, hkey, hq⟩ | ⟨e, he, hq⟩)
    · exact Or.inl ⟨(d, l), Option.mem_toList.2 ((drafted?_iff hc).2 ⟨hd, hkey.symm⟩), hq⟩
    · exact Or.inr ⟨e, Option.mem_toList.2 he, hq⟩

lemma walkedParents_subset_needed : c.walkedParents r ⊆ c.needed r :=
  List.subset_append_left _ _

lemma plannedParents_subset_needed (hc : ofDeclarations c.declarations = .ok c) (hd : c.IsDrafted d l)
    (hr : r.key = l.interface.key) : c.plannedParents d l r ⊆ c.needed r :=
  fun _ hq => walkedParents_subset_needed ((mem_walkedParents_iff hc).2 (Or.inl ⟨d, l, hd, hr, hq⟩))

lemma declaredParents_subset_needed (hc : ofDeclarations c.declarations = .ok c) {e : TypeDeclaration}
    (he : c.declarations.find? r = some e) : c.declaredParents e r ⊆ c.needed r :=
  fun _ hq => walkedParents_subset_needed ((mem_walkedParents_iff hc).2 (Or.inr ⟨e, he, hq⟩))

end Conventions

end Wiring
