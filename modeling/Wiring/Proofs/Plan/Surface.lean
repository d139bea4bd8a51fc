import Mathlib.Data.List.Permutation
import Wiring.Proofs.Plan.Walks

/-!
What becomes of the public members of a type whose interface is made. A member is left out only for a signature that
was found on the way, and what is found on the way another interface of the type offers in the end.
-/

namespace Wiring

namespace Conventions

open Drafting

variable {c : Conventions} {n : Nat} {d : TypeDeclaration} {l : InterfaceLink} {s s' s₁ : Drafts}
  {plan : InterfacePlan} {visited visited' : List TypeKey} {found : List String} {r q : TypeRef} {signature : String}
  {memo memo' : List (TypeKey × InterfacePlan)}

def offers (c : Conventions) (plans : List InterfacePlan) (r : TypeRef) : List String :=
  match plans.find? (·.ref.key = r.key) with
  | some p => p.members.map (·.boundSignature (p.ref.bindings r))
  | none =>
    match c.declarations.find? r with
    | some d => d.members.map (·.boundSignature (d.ref.bindings r))
    | none => []

/-! Signatures that a query finds. -/

inductive Offered (c : Conventions) (memo : List (TypeKey × InterfacePlan)) (r : TypeRef) (signature : String) : Prop
  | planned {d : TypeDeclaration} {l : InterfaceLink} {plan : InterfacePlan} : c.IsDrafted d l →
      l.interface.key = r.key → Assoc.find? d.key memo = some plan →
      signature ∈ plan.members.map (·.boundSignature (plan.ref.bindings r)) → Offered c memo r signature
  | declared {e : TypeDeclaration} : c.declarations.find? r = some e →
      signature ∈ e.members.map (·.boundSignature (e.ref.bindings r)) → Offered c memo r signature

def OfferedFrom (c : Conventions) (memo : List (TypeKey × InterfacePlan)) (r : TypeRef) (signature : String) : Prop :=
  ∃ q, c.Reaches r q ∧ c.Offered memo q signature

lemma OfferedFrom.mono (h : c.OfferedFrom memo r signature) (hkept : Extends memo memo') :
    c.OfferedFrom memo' r signature := by
  obtain ⟨q, hrq, ⟨hd, hkey, hplan, hmem⟩ | ⟨he, hmem⟩⟩ := h
  · exact ⟨q, hrq, .planned hd hkey (hkept _ _ hplan) hmem⟩
  · exact ⟨q, hrq, .declared he hmem⟩

lemma OfferedFrom.head (h : c.OfferedFrom memo q signature) (hq : q ∈ c.walkedParents r) :
    c.OfferedFrom memo r signature := by
  obtain ⟨p, hqp, hp⟩ := h
  exact ⟨p, .head hq hqp, hp⟩

structure FoundAt (c : Conventions) (n : Nat) : Prop where
  planSignatures : ∀ {d l plan r visited s found visited' s'}, c.IsDrafted d l → Sound c s →
    Assoc.find? d.key s.plans = some plan → r.key = l.interface.key → c.Waits s.underWay r →
    c.planSignatures n visited plan (plan.ref.bindings r) s = .ok ((found, visited'), s') →
    ∀ signature ∈ found, c.OfferedFrom s'.plans r signature
  interfaceSignatures : ∀ {r visited s found visited' s'}, Sound c s → c.Waits s.underWay r →
    c.interfaceSignatures n visited r s = .ok ((found, visited'), s') →
    ∀ signature ∈ found, c.OfferedFrom s'.plans r signature

lemma FoundAt.gather (ih : c.FoundAt n) (hruns : c.RunsAt n) {rs : List TypeRef} (hs : Sound c s)
    (hrs : ∀ r ∈ rs, c.Waits s.underWay r)
    (h : gather (c.interfaceSignatures n) visited rs s = .ok ((found, visited'), s')) (hmem : signature ∈ found) :
    ∃ r ∈ rs, c.OfferedFrom s'.plans r signature := by
  induction rs generalizing visited s found with
  | nil =>
    cases h
    cases hmem
  | cons r rs ihrs =>
    obtain ⟨first, middle, s₁, rest, hfirst, hrest, rfl⟩ := gather_cons_eq_ok h
    obtain ⟨hr, hrs⟩ := List.forall_mem_cons.1 hrs
    have hrun := hruns.interfaceSignatures hs hr hfirst
    have hrs₁ : ∀ r ∈ rs, c.Waits s₁.underWay r := hrun.underWay ▸ hrs
    obtain hmem | hmem := List.mem_append.1 hmem
    · exact ⟨r, List.mem_cons_self, (ih.interfaceSignatures hs hr hfirst signature hmem).mono
        (hruns.gather hrun.sound hrs₁ hrest).kept⟩
    · obtain ⟨q, hq, hoffered⟩ := ihrs hrun.sound hrs₁ hrest hmem
      exact ⟨q, List.mem_cons_of_mem r hq, hoffered⟩

lemma FoundAt.mapM (ih : c.FoundAt n) (hruns : c.RunsAt n) {rs : List TypeRef} {results : List Signatures}
    (hs : Sound c s) (hrs : ∀ r ∈ rs, c.Waits s.underWay r)
    (h : rs.mapM (c.interfaceSignatures n []) s = .ok (results, s')) (hmem : signature ∈ results.flatMap Prod.fst) :
    ∃ r ∈ rs, c.OfferedFrom s'.plans r signature := by
  induction rs generalizing s results with
  | nil =>
    cases h
    cases hmem
  | cons r rs ihrs =>
    obtain ⟨⟨first, middle⟩, s₁, rest, hfirst, hrest, rfl⟩ := mapM_cons_eq_ok h
    obtain ⟨hr, hrs⟩ := List.forall_mem_cons.1 hrs
    have hrun := hruns.interfaceSignatures hs hr hfirst
    have hrs₁ : ∀ r ∈ rs, c.Waits s₁.underWay r := hrun.underWay ▸ hrs
    obtain hmem | hmem := List.mem_append.1 hmem
    · exact ⟨r, List.mem_cons_self, (ih.interfaceSignatures hs hr hfirst signature hmem).mono
        (hruns.mapM hrun.sound hrs₁ hrest).kept⟩
    · obtain ⟨q, hq, hoffered⟩ := ihrs hrun.sound hrs₁ hrest hmem
      exact ⟨q, List.mem_cons_of_mem r hq, hoffered⟩

lemma foundAt (hc : ofDeclarations c.declarations = .ok c) (hfirst : c.BasesFirst) (n : Nat) : c.FoundAt n := by
  induction n with
  | zero =>
    refine ⟨fun _ _ _ _ _ h => ?_, fun _ _ h => ?_⟩
    · rw [planSignatures] at h
      cases h
    · rw [interfaceSignatures] at h
      cases h
  | succ n ih =>
    have hruns := runsAt hc hfirst n
    have hplanned : ∀ {d l plan r visited s found visited' s'}, c.IsDrafted d l → Sound c s →
        Assoc.find? d.key s.plans = some plan → r.key = l.interface.key → c.Waits s.underWay r →
        c.planSignatures (n + 1) visited plan (plan.ref.bindings r) s = .ok ((found, visited'), s') →
        ∀ signature ∈ found, c.OfferedFrom s'.plans r signature := by
      intro d l plan r visited s found visited' s' hd hs hplan hr hwaits h signature hmem
      obtain ⟨href, -, hparents⟩ := hs.plan_eq hd hplan
      obtain ⟨rest, hrest, rfl⟩ := planSignatures_cases h
      have hmap : plan.parents.map (·.substitute (plan.ref.bindings r)) = c.plannedParents d l r := by
        rw [href, hparents, plannedParents]
      rw [hmap] at hrest
      have hrs : ∀ q ∈ c.plannedParents d l r, c.Waits s.underWay q :=
        fun q hq => hwaits.step (plannedParents_subset_needed hc hd hr hq)
      obtain hmem | hmem := List.mem_append.1 hmem
      · exact ⟨r, .refl, .planned hd hr.symm ((hruns.gather hs hrs hrest).kept _ _ hplan) hmem⟩
      · obtain ⟨q, hq, hoffered⟩ := ih.gather hruns hs hrs hrest hmem
        exact hoffered.head ((mem_walkedParents_iff hc).2 (Or.inl ⟨d, l, hd, hr, hq⟩))
    refine ⟨hplanned, fun {r visited s found visited' s'} hs hwaits h signature hmem => ?_⟩
    obtain ⟨-, rfl, -, -⟩ | ⟨-, ⟨l, d, plan, s₁, hlink, hsource, hplan, hrest⟩ | ⟨-, -, rfl, -, -⟩ |
      ⟨e, rest, -, he, hrest, rfl⟩⟩ := interfaceSignatures_cases h
    · cases hmem
    · obtain ⟨hd, hkey, hway⟩ := draftLink?_cases hc hlink hsource
      obtain ⟨hrun, hkept⟩ := hruns.planFor hd hs hway (hkey ▸ hwaits.waitsFor) hplan
      exact ih.planSignatures hd hrun.sound hkept hkey.symm (hrun.underWay ▸ hwaits) hrest signature hmem
    · cases hmem
    · obtain hmem | hmem := List.mem_append.1 hmem
      · exact ⟨r, .refl, .declared he hmem⟩
      · obtain ⟨q, hq, hoffered⟩ := ih.gather hruns hs
          (fun q hq => hwaits.step (declaredParents_subset_needed hc he hq)) hrest hmem
        exact hoffered.head ((mem_walkedParents_iff hc).2 (Or.inr ⟨e, he, hq⟩))

lemma FoundAt.base (ih : c.FoundAt n) (hruns : c.RunsAt n) (hc : ofDeclarations c.declarations = .ok c)
    (hfirst : c.BasesFirst) (hd : c.IsDrafted d l) (hs : Sound c (enter s d.key))
    (hwaits : c.WaitsFor s.underWay l.interface.key) {first : List TypeRef}
    (h : BaseRun c n d (enter s d.key) first found s₁) (hmem : signature ∈ found) :
    ∃ q, c.baseParent? d = some q ∧ c.OfferedFrom s₁.plans q signature := by
  cases h with
  | none => cases hmem
  | some ha hplan hfound =>
    rename_i a al base s₀ visited
    obtain ⟨had, -⟩ := draftBase?_cases hc hd ha
    have hparent := baseParent?_eq ha
    obtain ⟨hrun, hkept⟩ := hruns.basePlan hc hfirst hd hs hwaits ha hplan
    have hq := hwaits.enter hc hd (baseParent?_mem_asked (l := l) hparent)
    have hkey : ((draftRef a.declaration al).withArguments a.ref.arguments).key = al.interface.key := rfl
    rw [← (hrun.sound.plan_eq had hkept).1] at hparent hq hkey
    exact ⟨_, hparent, ih.planSignatures had hrun.sound hkept hkey (hrun.underWay ▸ hq) hfound signature hmem⟩

lemma Made.offered_of_not_mem (hc : ofDeclarations c.declarations = .ok c) (hfirst : c.BasesFirst)
    (h : Made c memo d l plan) {m : MemberDeclaration} (hm : m ∈ d.members) (hsurface : m.isPublicSurface)
    (hnot : m ∉ plan.members) :
    ∃ known, Extends known memo ∧ Assoc.find? d.key known = none ∧
      ∃ q ∈ c.asked d l, c.OfferedFrom known q m.signature := by
  obtain ⟨hd, n, first, fromBase, fromParents, fromAncestors, s, s₁, s₂, s₃, hs, hnone, -, hwaits, hmakes, hkept⟩ := h
  have hruns := runsAt hc hfirst n
  have hfound := foundAt hc hfirst n
  obtain ⟨rfl, hrun₁, hrun₂, hrun₃⟩ := hruns.makes hc hfirst hd (hs.enter hnone) hwaits hmakes
  have hasked : ∀ q ∈ c.asked d l, c.Waits (enter s d.key).underWay q := fun q hq => hwaits.enter hc hd hq
  have hknown : m.signature ∈ fromBase ++ fromParents.flatMap Prod.fst ++ fromAncestors.flatMap Prod.fst := by
    by_contra hout
    rw [hmakes.plan] at hnot
    exact hnot (mem_members_draft.2 ⟨hm, hsurface, hout⟩)
  refine ⟨s₃.plans, hkept, ((hrun₁.trans hrun₂).trans hrun₃).find?_eq_none, ?_⟩
  obtain hmem | hmem := List.mem_append.1 hknown
  · obtain hmem | hmem := List.mem_append.1 hmem
    · obtain ⟨q, hq, hoffered⟩ := hfound.base hruns hc hfirst hd (hs.enter hnone) hwaits hmakes.base hmem
      exact ⟨q, baseParent?_mem_asked hq, hoffered.mono (hrun₂.kept.trans hrun₃.kept)⟩
    · obtain ⟨q, hq, hoffered⟩ := hfound.mapM hruns hrun₁.sound (fun r hr => hrun₁.underWay ▸
        hasked r (List.mem_append_left _ (List.mem_of_mem_drop hr))) hmakes.parents hmem
      exact ⟨q, List.mem_append_left _ (List.mem_of_mem_drop hq), hoffered.mono hrun₃.kept⟩
  · obtain ⟨q, hq, hoffered⟩ := hfound.mapM hruns hrun₂.sound (fun r hr => hrun₂.underWay ▸ hrun₁.underWay ▸
      hasked r (List.mem_append_right _ hr)) hmakes.ancestors hmem
    exact ⟨q, List.mem_append_right _ hq, hoffered⟩

/-! What the interfaces of the closure offer in the end. -/

variable {plans : List InterfacePlan} {depth : Nat} {closure : List TypeRef} {P : InterfacePlan}

lemma Complete.offers_of_planned (hc : ofDeclarations c.declarations = .ok c) (h : Complete c plans memo)
    (hd : c.IsDrafted d l) (hplan : Assoc.find? d.key memo = some plan) (hr : r.key = l.interface.key) :
    c.offers plans r = plan.members.map (·.boundSignature (plan.ref.bindings r)) := by
  rw [offers, hr, h.find?_eq_some hc hd hplan]

lemma Complete.offers_of_declared (hc : ofDeclarations c.declarations = .ok c) (h : Complete c plans memo)
    {e : TypeDeclaration} (he : c.declarations.find? r = some e) (hi : e.isInterface) :
    c.offers plans r = e.members.map (·.boundSignature (e.ref.bindings r)) := by
  rw [offers, h.find?_eq_none hc (drafted?_eq_none_of_isInterface hc he hi), he]

lemma Complete.mem_offers (hc : ofDeclarations c.declarations = .ok c) (h : Complete c plans memo)
    (hd : c.IsDrafted d l) (hkept : Extends memo' memo) (hfree : Assoc.find? d.key memo' = none)
    (honly : ∀ e ∈ c.declarations.find? r, e.isInterface) (hoffered : c.Offered memo' r signature) :
    r.key ≠ l.interface.key ∧ signature ∈ c.offers plans r := by
  have hown := (drafted?_iff hc).2 ⟨hd, rfl⟩
  obtain ⟨he, hkey, hplan, hmem⟩ | ⟨he, hmem⟩ := hoffered
  · rename_i e el other
    refine ⟨fun heq => ?_, ?_⟩
    · rw [(drafted?_iff hc).2 ⟨he, hkey.trans heq⟩] at hown
      cases hown
      cases hfree.symm.trans hplan
    · rwa [h.offers_of_planned hc he (hkept _ _ hplan) hkey.symm]
  · rename_i e
    refine ⟨fun heq => ?_, ?_⟩
    · rw [← heq, drafted?_eq_none_of_isInterface hc he (honly e he)] at hown
      cases hown
    · rwa [h.offers_of_declared hc he (honly e he)]

lemma not_offered_of_packageless (hc : ofDeclarations c.declarations = .ok c) (hnames : c.NamesPackages)
    (hr : r.package = "") : ¬c.Offered memo r signature := by
  rintro (⟨hd, hkey, -, -⟩ | ⟨he, -⟩)
  · cases ((drafted?_iff hc).2 ⟨hd, hkey⟩).symm.trans (drafted?_eq_none_of_packageless hc hnames hr)
  · cases he.symm.trans (find?_eq_none_of_packageless hnames hr)

lemma Complete.reached_mem_closure (hc : ofDeclarations c.declarations = .ok c) (h : Complete c plans memo)
    (hnames : c.NamesPackages) (hclosure : c.interfaceClosure plans depth d = some closure)
    (honly : c.OnlyInterfaces closure) (hq : q ∈ closure ∨ q.package = "")
    (hqr : c.Reaches q r) : r ∈ closure ∨ r.package = "" := by
  induction hqr with
  | refl => exact hq
  | tail _ hstep ih =>
    obtain hmem | hpackage := ih
    · exact h.walkedParents_mem_closure hc hclosure honly hmem hstep
    · rw [walkedParents_of_packageless hc hnames hpackage] at hstep
      cases hstep

/-- No public member is lost if the plan for a base can be made without that for what extends it: it is in the plan, or
another interface of the type offers it. -/
theorem public_member_offered {s : DeclarationSet} (hc : ofDeclarations s = .ok c) (hnames : c.NamesPackages)
    (hfirst : c.BasesFirst) (hplans : c.interfacePlans = .ok plans) (hP : P ∈ plans) (hd : d ∈ s.types)
    (hsource : P.source = d.ref) (hbase : c.FollowsBase d)
    (hclosure : c.interfaceClosure plans depth d = some closure) (honly : c.OnlyInterfaces closure)
    {m : MemberDeclaration} (hm : m ∈ d.members) (hsurface : m.isPublicSurface) :
    m ∈ P.members ∨ ∃ r ∈ closure, r.key ≠ P.ref.key ∧ m.signature ∈ c.offers plans r := by
  obtain rfl := (ofDeclarations_cases hc).1
  obtain ⟨memo, h⟩ := exists_complete hc hfirst hplans
  obtain ⟨e, l, he, hplan⟩ := (h.mem_iff P).1 hP
  obtain ⟨href, hesource, -⟩ := h.eq e l P he hplan
  obtain rfl := DeclarationSet.eq_of_key_eq he.declared hd (congrArg TypeRef.key (hesource.symm.trans hsource))
  rw [or_iff_not_imp_left]
  intro hnot
  obtain ⟨known, hkept, hfree, q, hq, r, hqr, hoffered⟩ :=
    (h.made e l P he hplan).offered_of_not_mem hc hfirst hm hsurface hnot
  have hqmem := asked_mem_closure hc he hbase hclosure hq
  obtain hr | hr := h.reached_mem_closure hc hnames hclosure honly hqmem hqr
  · obtain ⟨hne, hmem⟩ := h.mem_offers hc he hkept hfree (honly r hr) hoffered
    exact ⟨r, hr, by rw [href]; exact hne, hmem⟩
  · exact absurd hoffered (not_offered_of_packageless hc hnames hr)

end Conventions

/-! Orders, and rush orders that extend them. -/

namespace Orders

open Conventions

def named (name : String) : TypeRef :=
  { package := "app", name }

def method (name : String) : MemberDeclaration where
  name
  type := { package := "builtins", name := "None" }
  kind := .method

def order (base : Option TypeRef) : TypeDeclaration where
  ref := named "Order"
  base
  interfaces := [{ name := "IOrder" }]
  members := [method "ship"]

def rush (members : List MemberDeclaration) : TypeDeclaration where
  ref := named "Rush"
  base := some (named "Order")
  interfaces := [{ name := "IRush" }]
  members

def link (d : TypeDeclaration) : InterfaceLink where
  source := d.ref
  placeholder := { name := interfaceName d.name }
  interface := named (interfaceName d.name)
  viaBase := false
  handAuthored := false

def ancestor (d : TypeDeclaration) : Ancestor where
  declaration := d
  ref := d.ref

def shippedRush : TypeDeclaration :=
  rush [method "ship", method "hurry"]

def declarations : DeclarationSet where
  types := [order none, shippedRush]
  keys_nodup := by decide

def conventions : Conventions where
  declarations := declarations
  links := [link (order none), link shippedRush]
  chains := [((order none).key, []), (shippedRush.key, [ancestor (order none)])]

lemma ofDeclarations_eq : Conventions.ofDeclarations declarations = .ok conventions := by
  cbv

lemma basesFirst : conventions.BasesFirst := by
  rintro d l a al hd ha r ⟨q, hq, -⟩
  have hbase : ∀ d ∈ declarations.types, ∀ b ∈ conventions.draftBase? d,
      b = (ancestor (order none), link (order none)) := by decide
  obtain ⟨rfl, rfl⟩ := Prod.mk.inj (hbase d hd.declared (a, al) ha)
  have hasked : conventions.asked (order none) (link (order none)) = [] := by decide
  rw [ancestor, hasked] at hq
  cases hq

def plan (d : TypeDeclaration) (parents : List TypeRef) (members : List MemberDeclaration) : InterfacePlan where
  ref := named (interfaceName d.name)
  source := d.ref
  parents
  members

def shippedRushPlan : InterfacePlan :=
  plan shippedRush [named "IOrder"] [method "hurry"]

def plans : List InterfacePlan :=
  [plan (order none) [] [method "ship"], shippedRushPlan]

lemma interfaceClosure_shippedRush :
    conventions.interfaceClosure plans 2 shippedRush = some [named "IRush", named "IOrder"] := by
  decide +kernel

theorem ship_offered : method "ship" ∉ shippedRushPlan.members ∧
    ∃ r ∈ [named "IRush", named "IOrder"], r.key ≠ (named "IRush").key ∧
      (method "ship").signature ∈ conventions.offers plans r := by
  have hnot : method "ship" ∉ shippedRushPlan.members := by decide
  have hoffered := public_member_offered (P := shippedRushPlan) ofDeclarations_eq (by decide) basesFirst
    (by decide +kernel) (by decide) (by decide) rfl (by decide +kernel) interfaceClosure_shippedRush (by decide)
    (m := method "ship") (by decide) (by decide)
  exact ⟨hnot, hoffered.resolve_left hnot⟩

def item : TypeDeclaration where
  ref := named "Item"
  interfaces := [{ name := "IRush" }]

def itemOrder : TypeDeclaration :=
  order (some item.ref)

def plainRush : TypeDeclaration :=
  rush [method "hurry"]

def circle : DeclarationSet where
  types := [item, itemOrder, plainRush]
  keys_nodup := by decide

def circleConventions : Conventions where
  declarations := circle
  links := [link itemOrder, link plainRush]
  chains := [(item.key, []), (itemOrder.key, [ancestor item]),
    (plainRush.key, [ancestor itemOrder, ancestor item])]

def circlePlans : List InterfacePlan :=
  [plan itemOrder [] [], plan plainRush [named "IOrder"] [method "hurry"]]

theorem ship_lost :
    Conventions.ofDeclarations circle = .ok circleConventions ∧ circleConventions.interfacePlans = .ok circlePlans ∧
      circleConventions.interfaceClosure circlePlans 2 itemOrder = some [named "IOrder", named "IRush"] ∧
      method "ship" ∈ itemOrder.members ∧ (method "ship").isPublicSurface ∧
      (∀ P ∈ circlePlans, P.source = itemOrder.ref → method "ship" ∉ P.members) ∧
      ∀ r ∈ [named "IOrder", named "IRush"], (method "ship").signature ∉ circleConventions.offers circlePlans r :=
  ⟨by cbv, by decide +kernel, by decide +kernel, by decide, by decide, by decide, by decide +kernel⟩

end Orders

end Wiring
