import Wiring.Proofs.Plan.Plain

/-!
Declarations in another order. Links, ancestors and declared types are looked up by name, so the order makes no
difference to what the declarations say; it decides only which plan is begun first.
-/

namespace Wiring

lemma find?_perm {α : Type} {p : α → Bool} {xs ys : List α} (h : xs.Perm ys)
    (hone : ∀ a ∈ xs, ∀ b ∈ xs, p a → p b → a = b) : xs.find? p = ys.find? p := by
  cases hx : xs.find? p with
  | none =>
    refine (List.find?_eq_none.2 fun b hb => ?_).symm
    exact List.find?_eq_none.1 hx b (h.mem_iff.2 hb)
  | some a =>
    cases hy : ys.find? p with
    | none =>
      have ha := List.find?_eq_none.1 hy a (h.mem_iff.1 (List.mem_of_find?_eq_some hx))
      exact absurd (List.find?_some hx) ha
    | some b =>
      rw [hone a (List.mem_of_find?_eq_some hx) b (h.mem_iff.2 (List.mem_of_find?_eq_some hy))
        (List.find?_some hx) (List.find?_some hy)]

namespace DeclarationSet

variable {s s' : DeclarationSet}

lemma get?_perm (h : s.types.Perm s'.types) : s.get? = s'.get? := by
  funext k
  refine find?_perm h fun d hd e he hdk hek => ?_
  exact eq_of_key_eq hd he ((of_decide_eq_true hdk).trans (of_decide_eq_true hek).symm)

lemma link?_perm (h : s.types.Perm s'.types) : s.link? = s'.link? := by
  funext d
  simp only [link?, declaresInterface, get?_perm h]

lemma classBase?_perm (h : s.types.Perm s'.types) : s.classBase? = s'.classBase? := by
  funext d
  simp only [classBase?, find?, link?_perm h, get?_perm h]

lemma chainFrom_perm (h : s.types.Perm s'.types) (v : List String) (d : TypeDeclaration) (m : Bindings) :
    s.chainFrom v d m = s'.chainFrom v d m := by
  fun_induction s.chainFrom v d m with
  | case1 v d m hbase =>
    rw [classBase?_perm h] at hbase
    rw [chainFrom]
    split
    · rfl
    · rename_i hbase'
      cases hbase.symm.trans hbase'
  | case2 v d m r b hbase hv =>
    rw [classBase?_perm h] at hbase
    rw [chainFrom]
    split
    · rename_i hbase'
      cases hbase.symm.trans hbase'
    · rename_i hbase'
      cases hbase.symm.trans hbase'
      rw [dif_pos hv]
  | case3 v d m r b hbase hv a ih =>
    rw [classBase?_perm h] at hbase
    conv_rhs => rw [chainFrom]
    split
    · rename_i hbase'
      cases hbase.symm.trans hbase'
    · rename_i hbase'
      cases hbase.symm.trans hbase'
      rw [dif_neg hv, ih]

end DeclarationSet

namespace Conventions

variable {c c' : Conventions} {s s' : DeclarationSet} {d : TypeDeclaration} {l : InterfaceLink}
  {plan : InterfacePlan} {r : TypeRef}

structure SameView (c c' : Conventions) : Prop where
  mem_types : ∀ d, d ∈ c.declarations.types ↔ d ∈ c'.declarations.types
  find? : c.declarations.find? = c'.declarations.find?
  link? : c.link? = c'.link?
  linkTo? : c.linkTo? = c'.linkTo?
  ancestors : c.ancestors = c'.ancestors

lemma map_fst_chains {ts : List TypeDeclaration} {chains : List (TypeKey × List Ancestor)}
    (h : (ts.mapM fun d => do return (d.key, ← s.chain d) : Except (List String) _) = .ok chains) :
    chains.map Prod.fst = ts.map TypeDeclaration.key := by
  induction ts generalizing chains with
  | nil =>
    cases h
    rfl
  | cons e ts ih =>
    rw [List.mapM_cons] at h
    obtain ⟨first, hfirst, h⟩ := Except.bind_eq_ok.1 h
    obtain ⟨as, -, hfirst⟩ := Except.bind_eq_ok.1 hfirst
    obtain ⟨rest, hrest, h⟩ := Except.bind_eq_ok.1 h
    cases hfirst
    cases h
    rw [List.map_cons, List.map_cons, ih hrest]

lemma ancestors_of_undeclared (hc : ofDeclarations s = .ok c) (hd : d.key ∉ s.types.map TypeDeclaration.key) :
    c.ancestors d = [] := by
  rw [← map_fst_chains (ofDeclarations_cases hc).2.2, ← Assoc.find?_eq_none_iff] at hd
  rw [ancestors, hd, Option.getD_none]

lemma sameView_of_perm (hc : ofDeclarations s = .ok c) (hc' : ofDeclarations s' = .ok c')
    (h : s.types.Perm s'.types) : SameView c c' := by
  obtain ⟨rfl, hlinks, -⟩ := ofDeclarations_cases hc
  obtain ⟨rfl, hlinks', -⟩ := ofDeclarations_cases hc'
  have hperm : c.links.Perm c'.links := by
    rw [hlinks, hlinks', DeclarationSet.link?_perm h]
    exact h.filterMap _
  refine ⟨fun d => h.mem_iff, ?_, ?_, ?_, ?_⟩
  · funext r
    exact congrFun (DeclarationSet.get?_perm h) r.key
  · funext d
    refine find?_perm hperm fun l hl l' hl' hld hld' => ?_
    obtain ⟨e, he, hel⟩ := (mem_links_iff hc).1 hl
    obtain ⟨e', he', hel'⟩ := (mem_links_iff hc).1 hl'
    rw [(DeclarationSet.link?_cases hel).1] at hld
    rw [(DeclarationSet.link?_cases hel').1] at hld'
    obtain rfl := DeclarationSet.eq_of_key_eq he he' ((of_decide_eq_true hld).trans (of_decide_eq_true hld').symm)
    exact Option.some.inj (hel.symm.trans hel')
  · funext k
    refine find?_perm hperm fun l hl l' hl' hlk hlk' => ?_
    obtain ⟨e, he, hel⟩ := (mem_links_iff hc).1 hl
    obtain ⟨e', he', hel'⟩ := (mem_links_iff hc).1 hl'
    have hkey := linkTo?_interface hc he ((link?_eq hc he).trans hel)
    have hkey' := linkTo?_interface hc he' ((link?_eq hc he').trans hel')
    rw [of_decide_eq_true hlk] at hkey
    rw [of_decide_eq_true hlk'] at hkey'
    exact Option.some.inj (hkey.symm.trans hkey')
  · funext d
    by_cases hd : d.key ∈ c.declarations.types.map TypeDeclaration.key
    · obtain ⟨e, he, hkey⟩ := List.mem_map.1 hd
      have hchain := chain_eq_ok hc he
      rw [DeclarationSet.chain, DeclarationSet.chainFrom_perm h, ← DeclarationSet.chain,
        chain_eq_ok hc' (h.mem_iff.1 he)] at hchain
      rw [Conventions.ancestors, Conventions.ancestors, ← hkey]
      exact (Except.ok.inj hchain).symm
    · rw [ancestors_of_undeclared hc hd,
        ancestors_of_undeclared hc' fun hd' => hd ((h.map TypeDeclaration.key).mem_iff.2 hd')]

namespace SameView

variable (h : SameView c c')
include h

lemma bind : c.bind = c'.bind := by
  funext r package
  simp only [Conventions.bind, h.linkTo?]

lemma directInterfaces : c.directInterfaces = c'.directInterfaces := by
  funext d withOwn
  have hisInterface : c.isInterface = c'.isInterface := by
    funext r package
    simp only [isInterface, h.bind, h.find?, h.linkTo?]
  have hlisted : c.listedInterface = c'.listedInterface := by
    funext d r
    simp only [listedInterface, h.bind, h.link?]
  simp only [Conventions.directInterfaces, baseInterfaces, h.link?, h.bind, hisInterface, hlisted]

lemma draftBase? : c.draftBase? = c'.draftBase? := by
  funext d
  simp only [Conventions.draftBase?, h.ancestors, h.link?]

lemma baseParent? : c.baseParent? = c'.baseParent? := by
  funext d
  simp only [Conventions.baseParent?, h.draftBase?]

lemma draftParents : c.draftParents = c'.draftParents := by
  funext d l
  simp only [Conventions.draftParents, listedParents, h.directInterfaces, h.baseParent?]

lemma ancestorInterfaces : c.ancestorInterfaces = c'.ancestorInterfaces := by
  funext d
  simp only [Conventions.ancestorInterfaces, h.ancestors, h.directInterfaces]

lemma drafted? : c.drafted? = c'.drafted? := by
  funext k
  simp only [Conventions.drafted?, h.linkTo?, h.find?]

lemma declaredParents : c.declaredParents = c'.declaredParents := by
  funext e r
  simp only [Conventions.declaredParents, h.bind]

lemma asked : c.asked = c'.asked := by
  funext d l
  simp only [Conventions.asked, h.draftParents, h.ancestorInterfaces]

lemma needed : c.needed = c'.needed := by
  funext r
  simp only [Conventions.needed, walkedParents, plannedParents, h.drafted?, h.find?, h.declaredParents, h.draftParents,
    h.asked]

lemma isDrafted : c.IsDrafted d l ↔ c'.IsDrafted d l :=
  ⟨fun hd => ⟨(h.mem_types d).1 hd.declared, h.link? ▸ hd.linked, hd.synthesized⟩,
    fun hd => ⟨(h.mem_types d).2 hd.declared, h.link? ▸ hd.linked, hd.synthesized⟩⟩

lemma asksForItself : c.AsksForItself = c'.AsksForItself := by
  funext d
  simp only [AsksForItself, Asks, h.link?, h.asked, h.needed]

lemma independent : c.Independent = c'.Independent := by
  funext d
  simp only [Independent, Calm, h.link?, h.asked, h.needed, h.isDrafted, h.asksForItself]

lemma plain (n : Nat) : c.plainPlan n = c'.plainPlan n ∧
    c.plainPlanSignatures n = c'.plainPlanSignatures n ∧ c.plainSignatures n = c'.plainSignatures n := by
  -- all three at once, as each calls the others with one step less
  induction n with
  | zero =>
    refine ⟨?_, ?_, ?_⟩
    · funext d l
      rw [plainPlan, plainPlan]
    · funext visited plan m
      rw [plainPlanSignatures, plainPlanSignatures]
    · funext visited r
      rw [plainSignatures, plainSignatures]
  | succ n ih =>
    obtain ⟨hplan, hplanned, hsignatures⟩ := ih
    refine ⟨?_, ?_, ?_⟩
    · funext d l
      simp only [plainPlan, h.draftBase?, h.draftParents, h.baseParent?, h.ancestorInterfaces, hplan, hplanned,
        hsignatures]
    · funext visited plan m
      simp only [plainPlanSignatures, hsignatures]
    · funext visited r
      simp only [plainSignatures, h.drafted?, h.find?, h.declaredParents, hplan, hplanned, hsignatures]

end SameView

/-- The order of the declarations decides the order of the plans. Beyond that it makes a difference only to the
members of a plan on whose way some type asks for itself. -/
theorem interfacePlans_perm (hc : ofDeclarations s = .ok c) (hc' : ofDeclarations s' = .ok c')
    (hperm : s.types.Perm s'.types) :
    ∃ plans plans', c.interfacePlans = .ok plans ∧ c'.interfacePlans = .ok plans' ∧
      plans.map (·.source) = (s.types.filter c.synthesizesInterface).map (·.ref) ∧
      plans'.map (·.source) = (s'.types.filter c.synthesizesInterface).map (·.ref) ∧
      ∀ d ∈ s.types, ∀ plan ∈ plans, ∀ plan' ∈ plans', plan.source = d.ref → plan'.source = d.ref →
        { plan with members := [] } = { plan' with members := [] } ∧ (c.Independent d → plan = plan') := by
  have hview := sameView_of_perm hc hc' hperm
  obtain ⟨rfl, -⟩ := ofDeclarations_cases hc
  obtain ⟨rfl, -⟩ := ofDeclarations_cases hc'
  obtain ⟨plans, hplans, hall⟩ := exists_interfacePlans hc
  obtain ⟨plans', hplans', hall'⟩ := exists_interfacePlans hc'
  have hsynthesizes : c.synthesizesInterface = c'.synthesizesInterface := by
    funext d
    rw [synthesizesInterface, hview.link?, ← synthesizesInterface]
  refine ⟨plans, plans', hplans, hplans', map_source_eq hall, hsynthesizes ▸ map_source_eq hall', ?_⟩
  intro d hd plan hplan plan' hplan' hsource hsource'
  obtain ⟨e, l, he, hplanof⟩ := exists_planOf hall hplan
  obtain ⟨e', l', he', hplanof'⟩ := exists_planOf hall' hplan'
  obtain ⟨known, hknown⟩ := hplanof.shape
  obtain ⟨known', hknown'⟩ := hplanof'.shape
  have hkey : e.key = d.key := by
    rw [hknown] at hsource
    exact congrArg TypeRef.key hsource
  have hkey' : e'.key = d.key := by
    rw [hknown'] at hsource'
    exact congrArg TypeRef.key hsource'
  obtain rfl := DeclarationSet.eq_of_key_eq he.declared hd hkey
  obtain ⟨rfl, rfl⟩ := he.eq_of_key_eq (hview.isDrafted.2 he') hkey'.symm
  refine ⟨?_, fun hind => ?_⟩
  · rw [hknown, hknown', hview.draftParents]
    rfl
  · have hsettles := hplanof'.plain (hview.independent ▸ hind)
    simp only [← (hview.plain _).1] at hsettles
    exact (hplanof.plain hind).unique hsettles

end Conventions

/-! Traders that buy and sell, each by the interface of the other one. -/

namespace Traders

open Conventions
open Orders (named method link plan)

def trader (name other : String) : TypeDeclaration where
  ref := named name
  interfaces := [{ name := interfaceName name }, { name := interfaceName other }]
  members := [method "trade"]

def buyer : TypeDeclaration :=
  trader "Buyer" "Seller"

def seller : TypeDeclaration :=
  trader "Seller" "Buyer"

def clerk : TypeDeclaration where
  ref := named "Clerk"
  interfaces := [{ name := "IClerk" }]
  members := [method "trade"]

def agent : TypeDeclaration :=
  trader "Agent" "Clerk"

def buyerFirst : DeclarationSet where
  types := [buyer, seller, agent, clerk]
  keys_nodup := by decide

def sellerFirst : DeclarationSet where
  types := [seller, buyer, clerk, agent]
  keys_nodup := by decide

def buyerFirstConventions : Conventions where
  declarations := buyerFirst
  links := [link buyer, link seller, link agent, link clerk]
  chains := buyerFirst.types.map fun d => (d.key, [])

def sellerFirstConventions : Conventions where
  declarations := sellerFirst
  links := [link seller, link buyer, link clerk, link agent]
  chains := sellerFirst.types.map fun d => (d.key, [])

lemma ofDeclarations_buyerFirst : Conventions.ofDeclarations buyerFirst = .ok buyerFirstConventions := by
  cbv

lemma ofDeclarations_sellerFirst : Conventions.ofDeclarations sellerFirst = .ok sellerFirstConventions := by
  cbv

lemma perm : buyerFirst.types.Perm sellerFirst.types :=
  (List.Perm.swap seller buyer [agent, clerk]).trans (.cons seller (.cons buyer (.swap clerk agent [])))

lemma not_asksForItself_clerk : ¬buyerFirstConventions.AsksForItself clerk := by
  rintro ⟨l, hl, r, ⟨q, hq, -⟩, -⟩
  have hlink : buyerFirstConventions.link? clerk = some (link clerk) := by decide
  have hasked : buyerFirstConventions.asked clerk (link clerk) = [] := by decide
  cases hlink.symm.trans hl
  rw [hasked] at hq
  cases hq

lemma agent_independent : buyerFirstConventions.Independent agent := by
  intro l hl r hr q hq d l' hd hkey
  have hlink : buyerFirstConventions.link? agent = some (link agent) := by decide
  have hasked : buyerFirstConventions.asked agent (link agent) = [named "IClerk"] := by decide
  cases hlink.symm.trans hl
  rw [hasked, List.mem_singleton] at hr
  subst hr
  have hneeded : buyerFirstConventions.needed (named "IClerk") = [] := by decide
  have hq' : q = named "IClerk" := by
    obtain rfl | ⟨y, hy, -⟩ := hq.cases_head
    · rfl
    · rw [hneeded] at hy
      cases hy
  have hdrafted : buyerFirstConventions.drafted? (named "IClerk").key = some (clerk, link clerk) := by decide
  rw [hq'] at hkey
  cases ((drafted?_iff ofDeclarations_buyerFirst).2 ⟨hd, hkey⟩).symm.trans hdrafted
  exact not_asksForItself_clerk

theorem agent_plan_kept :
    buyerFirst.types.Perm sellerFirst.types ∧ ∃ plans plans', buyerFirstConventions.interfacePlans = .ok plans ∧
      sellerFirstConventions.interfacePlans = .ok plans' ∧ ∀ plan ∈ plans, ∀ plan' ∈ plans',
        plan.source = agent.ref → plan'.source = agent.ref → plan = plan' := by
  obtain ⟨plans, plans', hplans, hplans', -, -, hsame⟩ :=
    interfacePlans_perm ofDeclarations_buyerFirst ofDeclarations_sellerFirst perm
  refine ⟨perm, plans, plans', hplans, hplans', fun plan hplan plan' hplan' hsource hsource' => ?_⟩
  exact (hsame agent (by decide) plan hplan plan' hplan' hsource hsource').2 agent_independent

theorem trade_moves :
    buyerFirst.types.Perm sellerFirst.types ∧
      Conventions.ofDeclarations buyerFirst = .ok buyerFirstConventions ∧
      Conventions.ofDeclarations sellerFirst = .ok sellerFirstConventions ∧
      buyerFirstConventions.interfacePlans = .ok [plan buyer [named "ISeller"] [],
        plan seller [named "IBuyer"] [method "trade"], plan agent [named "IClerk"] [],
        plan clerk [] [method "trade"]] ∧
      sellerFirstConventions.interfacePlans = .ok [plan seller [named "IBuyer"] [],
        plan buyer [named "ISeller"] [method "trade"], plan clerk [] [method "trade"],
        plan agent [named "IClerk"] []] ∧
      plan buyer [named "ISeller"] [] ≠ plan buyer [named "ISeller"] [method "trade"] :=
  ⟨perm, ofDeclarations_buyerFirst, ofDeclarations_sellerFirst, by decide +kernel, by decide +kernel, by decide⟩

end Traders

end Wiring
