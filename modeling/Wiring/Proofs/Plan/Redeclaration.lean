import Wiring.Proofs.Plan.Surface

/-!
Signatures that a plan repeats. A query visits an interface once by package and name, whatever its arguments. If it
meets none with two lists of them, and nothing that is asked of waits for the asking type, queries find all that the
other interfaces of the type offer in the end, and the plan repeats none of it.
-/

namespace Wiring

namespace Conventions

open Drafting

variable {c : Conventions} {n : Nat} {d : TypeDeclaration} {l : InterfaceLink} {s s' s₁ : Drafts}
  {plan : InterfacePlan} {visited visited' middle underWay : List TypeKey} {found own more : List String}
  {r q : TypeRef} {signature : String} {memo : List (TypeKey × InterfacePlan)} {region : Set TypeRef}
  {roots others : List TypeRef}

structure Region (c : Conventions) (underWay : List TypeKey) (region : Set TypeRef) : Prop where
  closed : ∀ r ∈ region, ∀ q ∈ c.walkedParents r, q ∈ region
  single : ∀ r ∈ region, ∀ q ∈ region, r.key = q.key → r = q
  idle : ∀ r ∈ region, ∀ d l, c.IsDrafted d l → l.interface.key = r.key → d.key ∉ underWay
  only : ∀ r ∈ region, ∀ e ∈ c.declarations.find? r, e.isInterface

structure Gathers (c : Conventions) (memo : List (TypeKey × InterfacePlan)) (region : Set TypeRef)
    (roots : List TypeRef) (visited visited' : List TypeKey) (found : List String) : Prop where
  grown : visited ⊆ visited'
  entered : ∀ r ∈ roots, r.key ∈ visited'
  offered : ∀ r ∈ region, r.key ∈ visited' → r.key ∉ visited → ∀ signature, c.Offered memo r signature →
    signature ∈ found
  closed : ∀ r ∈ region, r.key ∈ visited' → r.key ∉ visited → ∀ q ∈ c.walkedParents r, q.key ∈ visited'

namespace Gathers

lemma of_mem (h : ∀ r ∈ roots, r.key ∈ visited) : Gathers c memo region roots visited visited [] where
  grown := List.Subset.refl _
  entered := h
  offered _ _ hmem hnot := absurd hmem hnot
  closed _ _ hmem hnot := absurd hmem hnot

lemma append (h : Gathers c memo region roots visited middle found)
    (h' : Gathers c memo region others middle visited' more) :
    Gathers c memo region (roots ++ others) visited visited' (found ++ more) where
  grown := List.Subset.trans h.grown h'.grown
  entered r hr := (List.mem_append.1 hr).elim (fun hr => h'.grown (h.entered r hr)) (h'.entered r)
  offered r hr hmem hnot signature hsignature := by
    by_cases hm : r.key ∈ middle
    · exact List.mem_append_left _ (h.offered r hr hm hnot signature hsignature)
    · exact List.mem_append_right _ (h'.offered r hr hmem hm signature hsignature)
  closed r hr hmem hnot q hq := by
    by_cases hm : r.key ∈ middle
    · exact h'.grown (h.closed r hr hm hnot q hq)
    · exact h'.closed r hr hmem hm q hq

lemma enter (hregion : Region c underWay region) (hr : r ∈ region)
    (hown : ∀ signature, c.Offered memo r signature → signature ∈ own)
    (h : Gathers c memo region (c.walkedParents r) (r.key :: visited) visited' more) :
    Gathers c memo region [r] visited visited' (own ++ more) := by
  have hnew : ∀ q ∈ region, q.key ∉ visited → q = r ∨ q.key ∉ r.key :: visited := by
    intro q hq hnot
    by_cases hkey : q.key = r.key
    · exact Or.inl (hregion.single q hq r hr hkey)
    · exact Or.inr (by simp [hkey, hnot])
  refine ⟨?_, ?_, fun q hq hmem hnot signature hsignature => ?_, fun q hq hmem hnot p hp => ?_⟩
  · exact List.Subset.trans (List.subset_cons_self _ _) h.grown
  · simpa using h.grown List.mem_cons_self
  · obtain rfl | hnot := hnew q hq hnot
    · exact List.mem_append_left _ (hown signature hsignature)
    · exact List.mem_append_right _ (h.offered q hq hmem hnot signature hsignature)
  · obtain rfl | hnot := hnew q hq hnot
    · exact h.entered p hp
    · exact h.closed q hq hmem hnot p hp

lemma mem_of_reached (hregion : Region c underWay region) (h : Gathers c memo region roots [] visited' found)
    (hroots : ∀ r ∈ roots, r ∈ region) (hq : q ∈ roots) (hqr : c.Reaches q r)
    (hoffered : c.Offered memo r signature) : signature ∈ found := by
  have hreached : r ∈ region ∧ r.key ∈ visited' := by
    clear hoffered
    induction hqr with
    | refl => exact ⟨hroots q hq, h.entered q hq⟩
    | tail _ hstep ih => exact ⟨hregion.closed _ ih.1 _ hstep, h.closed _ ih.1 ih.2 List.not_mem_nil _ hstep⟩
  exact h.offered r hreached.1 hreached.2 List.not_mem_nil signature hoffered

end Gathers

lemma Offered.mem_of_planned (hc : ofDeclarations c.declarations = .ok c)
    (honly : ∀ e ∈ c.declarations.find? r, e.isInterface) (h : c.Offered memo r signature) (hd : c.IsDrafted d l)
    (hr : r.key = l.interface.key) (hplan : Assoc.find? d.key memo = some plan) :
    signature ∈ plan.members.map (·.boundSignature (plan.ref.bindings r)) := by
  have hdrafted := (drafted?_iff hc).2 ⟨hd, hr.symm⟩
  obtain ⟨he, hkey, hother, hmem⟩ | ⟨he, -⟩ := h
  · rw [(drafted?_iff hc).2 ⟨he, hkey⟩] at hdrafted
    cases hdrafted
    cases hother.symm.trans hplan
    exact hmem
  · cases hdrafted.symm.trans (drafted?_eq_none_of_isInterface hc he (honly _ he))

lemma Offered.mem_of_declared (hc : ofDeclarations c.declarations = .ok c) {e : TypeDeclaration}
    (h : c.Offered memo r signature) (he : c.declarations.find? r = some e) (hi : e.isInterface) :
    signature ∈ e.members.map (·.boundSignature (e.ref.bindings r)) := by
  obtain ⟨hd, hkey, -, -⟩ | ⟨he', hmem⟩ := h
  · cases ((drafted?_iff hc).2 ⟨hd, hkey⟩).symm.trans (drafted?_eq_none_of_isInterface hc he hi)
  · cases he'.symm.trans he
    exact hmem

lemma walkedParents_of_planned (hc : ofDeclarations c.declarations = .ok c)
    (honly : ∀ e ∈ c.declarations.find? r, e.isInterface) (hd : c.IsDrafted d l) (hr : r.key = l.interface.key) :
    c.walkedParents r = c.plannedParents d l r := by
  have hdrafted := (drafted?_iff hc).2 ⟨hd, hr.symm⟩
  have hfind : c.declarations.find? r = none := by
    cases he : c.declarations.find? r with
    | none => rfl
    | some e => cases hdrafted.symm.trans (drafted?_eq_none_of_isInterface hc he (honly e he))
  rw [walkedParents, hdrafted, hfind]
  simp

lemma walkedParents_of_declared (hdrafted : c.drafted? r.key = none) :
    c.walkedParents r = (c.declarations.find? r).toList.flatMap fun e => c.declaredParents e r := by
  rw [walkedParents, hdrafted]
  rfl

structure GathersAt (c : Conventions) (memo : List (TypeKey × InterfacePlan)) (region : Set TypeRef) (n : Nat) :
    Prop where
  planSignatures : ∀ {d l plan r visited s found visited' s'}, c.IsDrafted d l → Sound c s →
    Assoc.find? d.key s.plans = some plan → r.key = l.interface.key → r ∈ region → Region c s.underWay region →
    c.Waits s.underWay r →
    c.planSignatures n visited plan (plan.ref.bindings r) s = .ok ((found, visited'), s') → Extends s'.plans memo →
    ∃ more, found = plan.members.map (·.boundSignature (plan.ref.bindings r)) ++ more ∧
      Gathers c memo region (c.walkedParents r) visited visited' more
  interfaceSignatures : ∀ {r visited s found visited' s'}, Sound c s → r ∈ region → Region c s.underWay region →
    c.Waits s.underWay r → c.interfaceSignatures n visited r s = .ok ((found, visited'), s') →
    Extends s'.plans memo → Gathers c memo region [r] visited visited' found

lemma GathersAt.gather (ih : c.GathersAt memo region n) (hruns : c.RunsAt n) {rs : List TypeRef} (hs : Sound c s)
    (hrs : ∀ r ∈ rs, r ∈ region) (hregion : Region c s.underWay region) (hwaits : ∀ r ∈ rs, c.Waits s.underWay r)
    (h : gather (c.interfaceSignatures n) visited rs s = .ok ((found, visited'), s'))
    (hkept : Extends s'.plans memo) : Gathers c memo region rs visited visited' found := by
  induction rs generalizing visited s found with
  | nil =>
    cases h
    exact .of_mem (by simp)
  | cons r rs ihrs =>
    obtain ⟨first, middle, s₁, rest, hfirst, hrest, rfl⟩ := gather_cons_eq_ok h
    obtain ⟨hr, hrs⟩ := List.forall_mem_cons.1 hrs
    obtain ⟨hwait, hwaits⟩ := List.forall_mem_cons.1 hwaits
    have hrun := hruns.interfaceSignatures hs hwait hfirst
    rw [← hrun.underWay] at hwaits
    have hrest' := ihrs hrun.sound hrs (hrun.underWay ▸ hregion) hwaits hrest
    have hkept' := (hruns.gather hrun.sound hwaits hrest).kept.trans hkept
    exact (ih.interfaceSignatures hs hr hregion hwait hfirst hkept').append hrest'

lemma GathersAt.mapM (ih : c.GathersAt memo {r | c.Reaches q r} n) (hruns : c.RunsAt n) {rs : List TypeRef}
    {results : List Signatures} (hs : Sound c s) (hregion : Region c s.underWay {r | c.Reaches q r})
    (hwaits : ∀ r ∈ rs, c.Waits s.underWay r)
    (h : rs.mapM (c.interfaceSignatures n []) s = .ok (results, s')) (hkept : Extends s'.plans memo) (hq : q ∈ rs)
    (hqr : c.Reaches q r) (hoffered : c.Offered memo r signature) : signature ∈ results.flatMap Prod.fst := by
  induction rs generalizing s results with
  | nil => cases hq
  | cons p rs ihrs =>
    obtain ⟨⟨first, middle⟩, s₁, rest, hfirst, hrest, rfl⟩ := mapM_cons_eq_ok h
    obtain ⟨hwait, hwaits⟩ := List.forall_mem_cons.1 hwaits
    have hrun := hruns.interfaceSignatures hs hwait hfirst
    rw [← hrun.underWay] at hwaits
    have hkept' := (hruns.mapM hrun.sound hwaits hrest).kept.trans hkept
    obtain rfl | hq := List.mem_cons.1 hq
    · have hgathers := ih.interfaceSignatures hs .refl hregion hwait hfirst hkept'
      have hroot : ∀ r ∈ [q], c.Reaches q r := fun r hr => List.mem_singleton.1 hr ▸ .refl
      exact List.mem_append_left _ (hgathers.mem_of_reached hregion hroot (List.mem_singleton_self q) hqr hoffered)
    · exact List.mem_append_right _ (ihrs hrun.sound (hrun.underWay ▸ hregion) hwaits hrest hq)

lemma GathersAt.base (ih : c.GathersAt memo {r | c.Reaches q r} n) (hruns : c.RunsAt n)
    (hc : ofDeclarations c.declarations = .ok c) (hfirst : c.BasesFirst) (hd : c.IsDrafted d l)
    (hs : Sound c (enter s d.key)) (hwaits : c.WaitsFor s.underWay l.interface.key) {first : List TypeRef}
    (h : BaseRun c n d (enter s d.key) first found s₁) (hkept : Extends s₁.plans memo)
    (hregion : Region c (enter s d.key).underWay {r | c.Reaches q r}) (hq : c.baseParent? d = some q)
    (hqr : c.Reaches q r) (hoffered : c.Offered memo r signature) : signature ∈ found := by
  cases h with
  | none hnone =>
    rw [baseParent?, hnone] at hq
    cases hq
  | some ha hplan hfound =>
    rename_i a al base s₀ visited
    obtain ⟨had, -⟩ := draftBase?_cases hc hd ha
    obtain ⟨hrun, hmemo⟩ := hruns.basePlan hc hfirst hd hs hwaits ha hplan
    have hwait := hwaits.enter hc hd (baseParent?_mem_asked (l := l) hq)
    have hkey : ((draftRef a.declaration al).withArguments a.ref.arguments).key = al.interface.key := rfl
    have href := (hrun.sound.plan_eq had hmemo).1
    obtain rfl := Option.some.inj ((baseParent?_eq ha).symm.trans hq)
    rw [← href] at hregion hqr hwait hkey ih
    rw [← hrun.underWay] at hregion hwait
    obtain ⟨more, rfl, hmore⟩ := ih.planSignatures had hrun.sound hmemo hkey .refl hregion hwait hfound hkept
    have hrun' := hruns.planned hc had hrun.sound hmemo hkey hwait hfound
    obtain rfl | ⟨p, hp, hpr⟩ := Relation.ReflTransGen.cases_head hqr
    · exact List.mem_append_left _ (hoffered.mem_of_planned hc (hregion.only _ .refl) had hkey
        (hkept _ _ (hrun'.kept _ _ hmemo)))
    · exact List.mem_append_right _ (hmore.mem_of_reached hregion (fun _ hp => .single hp) hp hpr hoffered)

lemma gathersAt (hc : ofDeclarations c.declarations = .ok c) (hfirst : c.BasesFirst) (n : Nat) :
    c.GathersAt memo region n := by
  induction n with
  | zero =>
    refine ⟨fun _ _ _ _ _ _ _ h => ?_, fun _ _ _ _ h => ?_⟩
    · rw [Conventions.planSignatures] at h
      cases h
    · rw [Conventions.interfaceSignatures] at h
      cases h
  | succ n ih =>
    have hruns := runsAt hc hfirst n
    refine ⟨fun {d l plan r visited s found visited' s'} hd hs hplan hr hmem hregion hwaits h hkept => ?_,
      fun {r visited s found visited' s'} hs hr hregion hwaits h hkept => ?_⟩
    · obtain ⟨href, -, hparents⟩ := hs.plan_eq hd hplan
      obtain ⟨rest, hrest, rfl⟩ := planSignatures_cases h
      refine ⟨rest, rfl, ?_⟩
      have hmap : plan.parents.map (·.substitute (plan.ref.bindings r)) = c.walkedParents r := by
        rw [href, hparents, walkedParents_of_planned hc (hregion.only r hmem) hd hr, plannedParents]
      rw [hmap] at hrest
      exact ih.gather hruns hs (hregion.closed r hmem) hregion
        (fun q hq => hwaits.step (walkedParents_subset_needed hq)) hrest hkept
    · have honly := hregion.only r hr
      obtain ⟨hv, rfl, rfl, rfl⟩ | ⟨-, ⟨l, d, plan, s₁, hlink, hsource, hplan, hrest⟩ | ⟨hlink, hfind, rfl, rfl, rfl⟩ |
        ⟨e, rest, hlink, he, hrest, rfl⟩⟩ := interfaceSignatures_cases h
      · exact .of_mem (by simpa using hv)
      · obtain ⟨hd, hkey, hway⟩ := draftLink?_cases hc hlink hsource
        obtain ⟨hrun, hmemo⟩ := hruns.planFor hd hs hway (hkey ▸ hwaits.waitsFor) hplan
        obtain ⟨more, rfl, hmore⟩ := ih.planSignatures hd hrun.sound hmemo hkey.symm hr (hrun.underWay ▸ hregion)
          (hrun.underWay ▸ hwaits) hrest hkept
        refine .enter hregion hr (fun signature hsignature => ?_) hmore
        have hrun' := hruns.planned hc hd hrun.sound hmemo hkey.symm (hrun.underWay ▸ hwaits) hrest
        exact hsignature.mem_of_planned hc honly hd hkey.symm (hkept _ _ (hrun'.kept _ _ hmemo))
      · have hnone := drafted?_eq_none_of_idle hc (hregion.idle _ hr) hlink
        have hparents : c.walkedParents r = [] := by rw [walkedParents_of_declared hnone, hfind]; rfl
        have hnothing : ∀ signature, c.Offered memo r signature → signature ∈ [] := by
          rintro signature (⟨hd, hkey, -, -⟩ | ⟨he, -⟩)
          · cases ((drafted?_iff hc).2 ⟨hd, hkey⟩).symm.trans hnone
          · cases he.symm.trans hfind
        refine .enter hregion hr hnothing ?_
        rw [hparents]
        exact .of_mem (by simp)
      · have hparents : c.walkedParents r = c.declaredParents e r := by
          rw [walkedParents_of_declared (drafted?_eq_none_of_idle hc (hregion.idle _ hr) hlink), he]
          simp
        refine .enter hregion hr (fun signature hsignature => hsignature.mem_of_declared hc he (honly e he)) ?_
        rw [hparents]
        exact ih.gather hruns hs (fun q hq => hregion.closed r hr q (hparents ▸ hq)) hregion
          (fun q hq => hwaits.step (declaredParents_subset_needed hc he hq)) hrest hkept

/-! The queries for one plan. -/

variable {plans : List InterfacePlan} {depth : Nat} {closure : List TypeRef} {P : InterfacePlan}

/-- Whether the plan for a type waits for its own interface. -/
def AsksForItself (c : Conventions) (d : TypeDeclaration) : Prop :=
  ∃ l, c.link? d = some l ∧ ∃ r, c.Asks d l r ∧ r.key = l.interface.key

/-- An interface leads to no other one with two lists of arguments. -/
def LeadsOnce (c : Conventions) (plans : List InterfacePlan) (q : TypeRef) : Prop :=
  ∀ r r', Relation.ReflTransGen (fun x y => y ∈ c.parentsOf plans x) q r →
    Relation.ReflTransGen (fun x y => y ∈ c.parentsOf plans x) q r' → r.key = r'.key → r = r'

lemma LeadsOnce.of_mem {rs : List TypeRef} (hq : q ∈ rs) (hclosed : ∀ r ∈ rs, c.parentsOf plans r ⊆ rs)
    (hsingle : ∀ r ∈ rs, ∀ r' ∈ rs, r.key = r'.key → r = r') : c.LeadsOnce plans q := by
  have hmem : ∀ r, Relation.ReflTransGen (fun x y => y ∈ c.parentsOf plans x) q r → r ∈ rs := by
    intro r hqr
    induction hqr with
    | refl => exact hq
    | tail _ hstep ih => exact hclosed _ ih hstep
  exact fun r r' hr hr' => hsingle r (hmem r hr) r' (hmem r' hr')

lemma Asks.of_reaches (h : c.Asks d l q) (hqr : c.Reaches q r) : c.Asks d l r := by
  induction hqr with
  | refl => exact h
  | tail _ hstep ih => exact ih.step (walkedParents_subset_needed hstep)

lemma IsDrafted.key_ne_of_asks (hd : c.IsDrafted d l) (hself : ¬c.AsksForItself d) (hasks : c.Asks d l r) :
    r.key ≠ l.interface.key :=
  fun hkey => hself ⟨l, hd.linked, r, hasks, hkey⟩

lemma IsDrafted.not_underWay (hc : ofDeclarations c.declarations = .ok c) (hd : c.IsDrafted d l)
    (hself : ¬c.AsksForItself d) (hwaits : c.WaitsFor s.underWay l.interface.key) (hasks : c.Asks d l r)
    {e : TypeDeclaration} {el : InterfaceLink} (he : c.IsDrafted e el) (hkey : el.interface.key = r.key) :
    e.key ∉ (enter s d.key).underWay := by
  intro hmem
  obtain heq | hmem := List.mem_cons.1 hmem
  · obtain ⟨rfl, rfl⟩ := he.eq_of_key_eq hd heq
    exact hd.key_ne_of_asks hself hasks hkey.symm
  · obtain ⟨e', el', he', heq, q, hq, p, hp, hpq⟩ := hwaits _ hmem
    obtain ⟨rfl, rfl⟩ := he'.eq_of_key_eq he heq
    have hasks' : c.Asks d l p := hasks.step (asked_subset_needed hc he' hkey.symm hp)
    exact hd.key_ne_of_asks hself (hasks'.trans hpq) hq

lemma Complete.asked_region (hc : ofDeclarations c.declarations = .ok c) (h : Complete c plans memo)
    (hnames : c.NamesPackages) (hextends : c.ExtendsTypes) (hd : c.IsDrafted d l) (hself : ¬c.AsksForItself d)
    (hwaits : c.WaitsFor s.underWay l.interface.key) (hclosure : c.interfaceClosure plans depth d = some closure)
    (honly : c.OnlyInterfaces closure) (hasked : q ∈ c.asked d l) (hq : q ∈ closure) (honce : c.LeadsOnce plans q) :
    Region c (enter s d.key).underWay {r | c.Reaches q r} := by
  have hreaches := fun r => h.reaches_of_walked (r := r) hc hnames hextends hclosure honly hq
  refine ⟨fun r hr p hp => hr.tail hp, fun r hr r' hr' hkey => ?_, fun r hr e el he hkey => ?_, fun r hr => ?_⟩
  · exact honce r r' (hreaches r hr).2 (hreaches r' hr').2 hkey
  · exact hd.not_underWay hc hself hwaits ((asks_of_mem hasked).of_reaches hr) he hkey
  · exact honly r (hreaches r hr).1

lemma Made.not_offered_of_mem (hc : ofDeclarations c.declarations = .ok c) (hfirst : c.BasesFirst)
    (h : Made c memo d l plan)
    (hregion : ∀ s : Drafts, c.WaitsFor s.underWay l.interface.key →
      Region c (enter s d.key).underWay {r | c.Reaches q r})
    {m : MemberDeclaration} (hm : m ∈ plan.members) (hq : q ∈ c.asked d l) (hqr : c.Reaches q r) :
    ¬c.Offered memo r m.signature := by
  obtain ⟨hd, n, first, fromBase, fromParents, fromAncestors, s, s₁, s₂, s₃, hs, hnone, -, hwaits, hmakes, hkept⟩ := h
  have hruns := runsAt hc hfirst n
  have hgathers : c.GathersAt memo {r | c.Reaches q r} n := gathersAt hc hfirst n
  obtain ⟨rfl, hrun₁, hrun₂, hrun₃⟩ := hruns.makes hc hfirst hd (hs.enter hnone) hwaits hmakes
  have hregion := hregion s hwaits
  have hasked : ∀ q ∈ c.asked d l, c.Waits (enter s d.key).underWay q := fun q hq => hwaits.enter hc hd hq
  have hway₁ : s₁.underWay = (enter s d.key).underWay := hrun₁.underWay
  have hway₂ : s₂.underWay = (enter s d.key).underWay := hrun₂.underWay.trans hway₁
  intro hoffered
  rw [hmakes.plan] at hm
  refine (mem_members_draft.1 hm).2.2 ?_
  obtain hq | hq := List.mem_append.1 hq
  · refine List.mem_append_left _ ?_
    obtain ⟨rest, hrest, -⟩ := listedParents_cases c d l (c.baseParent? d).toList
    rw [draftParents, hrest] at hq
    obtain hq | hq := List.mem_append.1 hq
    · exact List.mem_append_left _ (hgathers.base hruns hc hfirst hd (hs.enter hnone) hwaits hmakes.base
        ((hrun₂.trans hrun₃).kept.trans hkept) hregion (Option.mem_toList.1 hq) hqr hoffered)
    · have hdrop : (c.listedParents d l (c.baseParent? d).toList).drop (c.baseParent? d).toList.length = rest := by
        rw [hrest, List.drop_left]
      have hmem : ∀ q ∈ rest, q ∈ c.draftParents d l := fun q hq => by
        rw [draftParents, hrest]
        exact List.mem_append_right _ hq
      have hparents := hmakes.parents
      rw [hdrop] at hparents
      exact List.mem_append_right _ (hgathers.mapM hruns hrun₁.sound (hway₁ ▸ hregion) (fun q hq => hway₁ ▸ hasked q
        (List.mem_append_left _ (hmem q hq))) hparents (hrun₃.kept.trans hkept) hq hqr hoffered)
  · exact List.mem_append_right _ (hgathers.mapM hruns hrun₂.sound (hway₂ ▸ hregion) (fun q hq => hway₂ ▸ hasked q
      (List.mem_append_right _ hq)) hmakes.ancestors hkept hq hqr hoffered)

lemma Complete.offered_of_mem_offers (hc : ofDeclarations c.declarations = .ok c) (h : Complete c plans memo)
    (hmem : signature ∈ c.offers plans r) : c.Offered memo r signature := by
  cases hdrafted : c.drafted? r.key with
  | none =>
    rw [offers, h.find?_eq_none hc hdrafted] at hmem
    cases he : c.declarations.find? r with
    | none =>
      rw [he] at hmem
      cases hmem
    | some e =>
      rw [he] at hmem
      exact .declared he hmem
  | some b =>
    obtain ⟨d, l⟩ := b
    obtain ⟨hd, hkey⟩ := (drafted?_iff hc).1 hdrafted
    obtain ⟨plan, hplan⟩ := h.exists_plan d l hd
    rw [h.offers_of_planned hc hd hplan hkey.symm] at hmem
    exact .planned hd hkey hplan hmem

/-- No member of a plan has the signature of a member of another interface of the type, if the type does not ask for
itself and no other interface leads to one with two lists of arguments. -/
theorem member_not_redeclared {s : DeclarationSet} (hc : ofDeclarations s = .ok c) (hnames : c.NamesPackages)
    (hextends : c.ExtendsTypes) (hfirst : c.BasesFirst) (hplans : c.interfacePlans = .ok plans) (hP : P ∈ plans)
    (hd : d ∈ s.types) (hsource : P.source = d.ref) (hself : ¬c.AsksForItself d)
    (hclosure : c.interfaceClosure plans depth d = some closure) (honly : c.OnlyInterfaces closure)
    (hown : ∀ r ∈ closure, r.key = P.ref.key → c.parentsOf plans r ⊆ P.parents)
    (honce : ∀ q ∈ closure, q.key ≠ P.ref.key → c.LeadsOnce plans q) {m : MemberDeclaration} (hm : m ∈ P.members)
    (hr : r ∈ closure) (hother : r.key ≠ P.ref.key) : m.signature ∉ c.offers plans r := by
  obtain rfl := (ofDeclarations_cases hc).1
  obtain ⟨memo, h⟩ := exists_complete hc hfirst hplans
  obtain ⟨e, l, he, hplan⟩ := (h.mem_iff P).1 hP
  obtain ⟨href, hesource, hparents⟩ := h.eq e l P he hplan
  obtain rfl := DeclarationSet.eq_of_key_eq he.declared hd (congrArg TypeRef.key (hesource.symm.trans hsource))
  have hkey : P.ref.key = l.interface.key := by rw [href]; rfl
  rw [hkey] at hown honce hother
  rw [hparents] at hown
  obtain heq | ⟨q, hq, hqmem, hqr⟩ := h.closure_cases hc hnames hextends he hclosure honly hown hr
  · exact absurd heq hother
  · intro hmem
    have hqonce := honce q hqmem (he.key_ne_of_asks hself (asks_of_mem hq))
    have hmade := h.made e l P he hplan
    exact hmade.not_offered_of_mem hc hfirst (fun s hwaits => h.asked_region hc hnames hextends he hself hwaits hclosure
      honly hq hqmem hqonce) hm hq hqr (h.offered_of_mem_offers hc hmem)

end Conventions

/-! Clerks that put users and orders into stores. -/

namespace Clerks

open Conventions
open Orders (named method link)

def put (item : TypeRef) : MemberDeclaration :=
  { method "put" with parameters := [{ name := "item", type := item }] }

def storeOf (item : TypeRef) : TypeRef :=
  { package := "app", name := "IStore", arguments := [item] }

def interface (ref : TypeRef) (parents : List TypeRef) (members : List MemberDeclaration) : TypeDeclaration where
  ref
  interfaces := parents
  members
  isInterface := true

def store : TypeDeclaration :=
  interface (storeOf { name := "T", isTypeParameter := true }) [] [put { name := "T", isTypeParameter := true }]

def reader : TypeDeclaration :=
  interface (named "IReader") [storeOf (named "User")] []

def writer : TypeDeclaration :=
  interface (named "IWriter") [storeOf (named "Order")] []

def desk : TypeDeclaration :=
  interface (named "IDesk") [reader.ref, writer.ref] []

def clerk (listed : List TypeRef) (members : List MemberDeclaration) : TypeDeclaration where
  ref := named "Clerk"
  interfaces := { name := "IClerk" } :: listed
  members

def plan (listed : List TypeRef) (members : List MemberDeclaration) : InterfacePlan where
  ref := named "IClerk"
  source := named "Clerk"
  parents := listed
  members

def readingWriter : TypeDeclaration :=
  clerk [reader.ref, writer.ref] [put (named "User"), put (named "Order"), method "audit"]

def declarations : DeclarationSet where
  types := [store, reader, writer, readingWriter]
  keys_nodup := by decide

def conventions : Conventions where
  declarations := declarations
  links := [link readingWriter]
  chains := declarations.types.map fun d => (d.key, [])

lemma ofDeclarations_eq : Conventions.ofDeclarations declarations = .ok conventions := by
  cbv

lemma basesFirst : conventions.BasesFirst := by
  intro d l a al hd ha
  have hnone : ∀ d ∈ declarations.types, conventions.draftBase? d = none := by decide
  cases (hnone d hd.declared).symm.trans ha

def reads : List TypeRef :=
  [reader.ref, storeOf (named "User")]

def writes : List TypeRef :=
  [writer.ref, storeOf (named "Order")]

lemma not_asksForItself : ¬conventions.AsksForItself readingWriter := by
  rintro ⟨l, hl, r, hasks, hkey⟩
  have hlink : conventions.link? readingWriter = some (link readingWriter) := by decide
  cases hlink.symm.trans hl
  have hmem : r ∈ reads ++ writes := hasks.mem (by decide +kernel) (by decide +kernel)
  have hother : ∀ r ∈ reads ++ writes, r.key ≠ (link readingWriter).interface.key := by decide
  exact hother r hmem hkey

def readingWriterPlan : InterfacePlan :=
  plan [reader.ref, writer.ref] [method "audit"]

def closure : List TypeRef :=
  named "IClerk" :: (reads ++ writes)

lemma leadsOnce : ∀ q ∈ closure, q.key ≠ readingWriterPlan.ref.key → conventions.LeadsOnce [readingWriterPlan] q := by
  intro q hq hother
  obtain rfl | hq := List.mem_cons.1 hq
  · exact absurd rfl hother
  · obtain hq | hq := List.mem_append.1 hq
    · exact .of_mem hq (by decide +kernel) (by decide)
    · exact .of_mem hq (by decide +kernel) (by decide)

theorem audit_declared_once : method "audit" ∈ readingWriterPlan.members ∧
    (method "audit").signature ∉ conventions.offers [readingWriterPlan] (storeOf (named "Order")) := by
  have hclosure : conventions.interfaceClosure [readingWriterPlan] 3 readingWriter = some closure := by decide +kernel
  refine ⟨by decide, ?_⟩
  exact member_not_redeclared ofDeclarations_eq (by decide) (by decide) basesFirst (by decide +kernel)
    (List.mem_singleton_self readingWriterPlan) (d := readingWriter) (by decide) rfl not_asksForItself hclosure
    (by decide) (by decide +kernel) leadsOnce (by decide) (by decide) (by decide)

def deskClerk : TypeDeclaration :=
  clerk [desk.ref] [put (named "User"), put (named "Order")]

def desks : DeclarationSet where
  types := [store, reader, writer, desk, deskClerk]
  keys_nodup := by decide

def deskConventions : Conventions where
  declarations := desks
  links := [link deskClerk]
  chains := desks.types.map fun d => (d.key, [])

def deskClerkPlan : InterfacePlan :=
  plan [desk.ref] [put (named "Order")]

theorem order_put_again :
    Conventions.ofDeclarations desks = .ok deskConventions ∧ deskConventions.interfacePlans = .ok [deskClerkPlan] ∧
      deskConventions.interfaceClosure [deskClerkPlan] 4 deskClerk =
        some (named "IClerk" :: desk.ref :: (reads ++ writes)) ∧
      (storeOf (named "Order")).key ≠ deskClerkPlan.ref.key ∧ put (named "Order") ∈ deskClerkPlan.members ∧
      (put (named "Order")).signature ∈ deskConventions.offers [deskClerkPlan] (storeOf (named "Order")) :=
  ⟨by cbv, by decide +kernel, by decide +kernel, by decide, by decide, by decide +kernel⟩

end Clerks

end Wiring
