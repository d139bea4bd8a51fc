import Mathlib.Data.List.Sort
import Mathlib.Order.Extension.Linear
import Wiring.Proofs.Plan.Identities

/-!
The order of the parents of an interface. The interface of the base comes first and then what the type names itself,
in the order in which it is named, wherever these lead.
-/

namespace Wiring

namespace Conventions

variable {set : DeclarationSet} {c : Conventions} {d : TypeDeclaration} {l : InterfaceLink} {p q : TypeRef}
  {plan : InterfacePlan} {plans : List InterfacePlan} {parents : List TypeRef} {k : TypeKey}

def parentPairs (c : Conventions) (plans : List InterfacePlan) : List (TypeKey × TypeKey) :=
  (c.declarations.types.filter (·.isInterface)).flatMap
      (fun e => e.interfaceParents.map fun p => (e.key, (c.bind p e.package).key)) ++
    plans.flatMap fun plan => plan.parents.map fun p => (plan.ref.key, p.key)

def HasParent (c : Conventions) (plans : List InterfacePlan) (k k' : TypeKey) : Prop :=
  (k, k') ∈ c.parentPairs plans

def Leads (c : Conventions) (plans : List InterfacePlan) : TypeKey → TypeKey → Prop :=
  Relation.ReflTransGen (c.HasParent plans)

def Acyclic (c : Conventions) (plans : List InterfacePlan) : Prop :=
  ∀ k, ¬Relation.TransGen (c.HasParent plans) k k

def Linear (c : Conventions) (plans : List InterfacePlan) (parents : List TypeRef) : Prop :=
  parents.Pairwise fun p q => ¬c.Leads plans q.key p.key

def namedParents (c : Conventions) (d : TypeDeclaration) (l : InterfaceLink) : List TypeRef :=
  ((c.directInterfaces d false).filter fun r => r ≠ l.interface ∧ r ∉ (c.baseParent? d).toList).eraseDups

lemma acyclic_of_rank (rank : TypeKey → Nat) (h : ∀ e ∈ c.parentPairs plans, rank e.2 < rank e.1) :
    c.Acyclic plans := by
  intro k hk
  have hdescends : ∀ {k k'}, Relation.TransGen (c.HasParent plans) k k' → rank k' < rank k := by
    intro k k' hkk'
    induction hkk' with
    | single hstep => exact h _ hstep
    | tail _ hstep ih => exact (h _ hstep).trans ih
  exact lt_irrefl _ (hdescends hk)

lemma Acyclic.eq_of_leads (h : c.Acyclic plans) {k k' : TypeKey} (hthere : c.Leads plans k k')
    (hback : c.Leads plans k' k) : k = k' := by
  obtain heq | htrans := Relation.reflTransGen_iff_eq_or_transGen.1 hthere
  · exact heq.symm
  · exact absurd (htrans.trans_left hback) (h k)

/-! The parents of a plan. -/

lemma listedParents_eq (c : Conventions) (d : TypeDeclaration) (l : InterfaceLink) (first : List TypeRef) :
    c.listedParents d l first =
      first ++ ((c.directInterfaces d false).filter fun r => r ≠ l.interface ∧ r ∉ first).eraseDups := by
  rw [listedParents]
  induction c.directInterfaces d false generalizing first with
  | nil => exact (List.append_nil first).symm
  | cons q rs ih =>
    rw [List.foldl_cons]
    split
    case isTrue hq => rw [ih, List.filter_cons_of_neg (by simpa using or_iff_not_imp_left.1 hq)]
    case isFalse hq =>
      have hrest : (rs.filter fun r => r ≠ l.interface ∧ r ∉ first).filter (fun r => !r == q) =
          rs.filter fun r => r ≠ l.interface ∧ r ∉ first ++ [q] := by
        rw [List.filter_filter]
        refine List.filter_congr fun r _ => Bool.eq_iff_iff.2 ?_
        simp
        tauto
      rw [ih, List.filter_cons_of_pos (by simpa [not_or] using hq), List.eraseDups_cons, hrest, List.append_assoc,
        List.singleton_append]

lemma draftParents_eq (c : Conventions) (d : TypeDeclaration) (l : InterfaceLink) :
    c.draftParents d l = (c.baseParent? d).toList ++ c.namedParents d l := by
  rw [draftParents, listedParents_eq, namedParents]

lemma hasParent_of_mem_parents (hplan : plan ∈ plans) (hp : p ∈ plan.parents) :
    c.HasParent plans plan.ref.key p.key :=
  List.mem_append_right _ (List.mem_flatMap.2 ⟨plan, hplan, List.mem_map.2 ⟨p, hp, rfl⟩⟩)

/-! Orders of parents. -/

lemma Linear.nodup (h : c.Linear plans parents) : (parents.map TypeRef.key).Nodup := by
  refine List.pairwise_map.2 (h.imp fun hleads heq => hleads ?_)
  rw [heq]
  exact .refl

lemma exists_linear (h : c.Acyclic plans) (hnodup : (parents.map TypeRef.key).Nodup) :
    ∃ order : List TypeRef, order.Perm parents ∧ c.Linear plans order := by
  classical
  have hpartial : IsPartialOrder TypeKey (c.Leads plans) :=
    { refl := fun _ => .refl
      trans := fun _ _ _ => .trans
      antisymm := fun _ _ => h.eq_of_leads }
  obtain ⟨le, hle, hleads⟩ := extend_partialOrder (c.Leads plans)
  -- sorted by the keys, in a linear order in which what leads somewhere comes before it
  let order := parents.insertionSort fun p q => le p.key q.key
  have hperm : order.Perm parents := List.perm_insertionSort _ _
  have hsorted : order.Pairwise fun p q => le p.key q.key := by
    have : Std.Total fun p q : TypeRef => le p.key q.key := ⟨fun p q => hle.total p.key q.key⟩
    have : IsTrans TypeRef fun p q => le p.key q.key := ⟨fun _ _ _ => hle.trans _ _ _⟩
    exact List.pairwise_insertionSort _ _
  have hkeys : order.Pairwise fun p q => p.key ≠ q.key :=
    List.pairwise_map.1 ((hperm.map TypeRef.key).nodup_iff.2 hnodup)
  refine ⟨order, hperm, (hsorted.and hkeys).imp fun ⟨hpq, hne⟩ hqp => hne ?_⟩
  exact hle.antisymm _ _ hpq (hleads _ _ hqp)

/-! Parents of plans. -/

/-- How the parents of an interface that is made for a type stand. -/
structure ParentsStand (c : Conventions) (plans : List InterfacePlan) (d : TypeDeclaration) (l : InterfaceLink)
    (plan : InterfacePlan) : Prop where
  source : plan.source = d.ref
  parents : plan.parents = (c.baseParent? d).toList ++ c.namedParents d l
  own : ∀ p ∈ plan.parents, p.key ≠ plan.ref.key
  orderable : (∃ order : List TypeRef, order.Perm plan.parents ∧ c.Linear plans order) ↔
    (plan.parents.map TypeRef.key).Nodup
  linear : c.Linear plans plan.parents ↔ c.Linear plans (c.namedParents d l) ∧
    ∀ b ∈ c.baseParent? d, ∀ p ∈ c.namedParents d l, ¬c.Leads plans p.key b.key

/-- The interface of the base comes before what the type names, which follows the source. Parents of different
identities can be put in order, and stand in order unless what is named already does not or leads to the base. -/
theorem parents_stand (hc : ofDeclarations set = .ok c) :
    ∃ plans, c.interfacePlans = .ok plans ∧ (c.Acyclic plans → ∀ plan ∈ plans, ∃ d ∈ set.types, ∃ l,
      c.link? d = some l ∧ c.ParentsStand plans d l plan) := by
  obtain rfl := (ofDeclarations_cases hc).1
  obtain ⟨plans, hplans, hall⟩ := exists_interfacePlans hc
  refine ⟨plans, hplans, fun hacyclic plan hplan => ?_⟩
  obtain ⟨d, l, hd, hof⟩ := exists_planOf hall hplan
  have hparents : plan.parents = (c.baseParent? d).toList ++ c.namedParents d l := by
    obtain ⟨known, rfl⟩ := hof.shape
    exact draftParents_eq c d l
  refine ⟨d, hd.declared, l, hd.linked, ?_⟩
  constructor
  case source => exact hof.source_eq
  case parents => exact hparents
  case own =>
    intro p hp hkey
    have hself := hasParent_of_mem_parents (c := c) hplan hp
    rw [hkey] at hself
    exact hacyclic _ (.single hself)
  case orderable =>
    refine ⟨?_, exists_linear hacyclic⟩
    rintro ⟨order, hperm, hlinear⟩
    exact (hperm.map TypeRef.key).nodup_iff.1 hlinear.nodup
  case linear =>
    rw [hparents, Linear, List.pairwise_append]
    cases c.baseParent? d with
    | none => simp [Linear]
    | some b => simp [Linear]

end Conventions

/-! A contract is a document that is audited, and what is audited is a document. A ledger stores two things. -/

namespace Audits

open Conventions
open Documents (named)

def documentClass : TypeDeclaration where
  ref := named "Document"
  interfaces := [{ name := "IDocument" }]

def audited : TypeDeclaration where
  ref := named "IAudited"
  interfaces := [named "IDocument"]
  isInterface := true

def contract : TypeDeclaration where
  ref := named "Contract"
  base := some (named "Document")
  interfaces := [{ name := "IContract" }, named "IAudited"]

def store (item : String) : TypeRef :=
  (named "IStore").withArguments [named item]

def ledger : TypeDeclaration where
  ref := named "Ledger"
  interfaces := [{ name := "ILedger" }, store "Entry", store "Account"]

def declarations : DeclarationSet where
  types := [documentClass, audited, contract, ledger]
  keys_nodup := by decide

def link (d : TypeDeclaration) (interface : String) : InterfaceLink where
  source := d.ref
  placeholder := { name := interface }
  interface := named interface
  viaBase := false
  handAuthored := false

def conventions : Conventions where
  declarations := declarations
  links := [link documentClass "IDocument", link contract "IContract", link ledger "ILedger"]
  chains := [(documentClass.key, []), (audited.key, []), (contract.key, [⟨documentClass, documentClass.ref⟩]),
    (ledger.key, [])]

def plan (d : TypeDeclaration) (interface : String) (parents : List TypeRef) : InterfacePlan where
  ref := named interface
  source := d.ref
  parents

def contractPlan : InterfacePlan :=
  plan contract "IContract" [named "IDocument", named "IAudited"]

def ledgerPlan : InterfacePlan :=
  plan ledger "ILedger" [store "Entry", store "Account"]

def plans : List InterfacePlan :=
  [plan documentClass "IDocument" [], contractPlan, ledgerPlan]

lemma ofDeclarations_eq : Conventions.ofDeclarations declarations = .ok conventions := by
  cbv

lemma interfacePlans_eq : conventions.interfacePlans = .ok plans := by
  decide +kernel

lemma acyclic : conventions.Acyclic plans :=
  acyclic_of_rank (fun k => ["IStore", "ILedger", "IDocument", "IAudited", "IContract"].idxOf k.2) (by decide +kernel)

theorem contract_orderable :
    conventions.Acyclic plans ∧
      ∃ order : List TypeRef, order.Perm contractPlan.parents ∧ conventions.Linear plans order := by
  obtain ⟨plans', hplans', hstand⟩ := parents_stand ofDeclarations_eq
  obtain rfl : plans = plans' := Except.ok.inj (interfacePlans_eq.symm.trans hplans')
  obtain ⟨d, -, l, -, h⟩ := hstand acyclic contractPlan (by decide)
  exact ⟨acyclic, h.orderable.2 (by decide)⟩

theorem contract_not_linear :
    Conventions.ofDeclarations declarations = .ok conventions ∧ conventions.interfacePlans = .ok plans ∧
      conventions.Acyclic plans ∧ contractPlan ∈ plans ∧ ¬conventions.Linear plans contractPlan.parents ∧
      ledgerPlan ∈ plans ∧ ¬(ledgerPlan.parents.map TypeRef.key).Nodup := by
  have hparent : conventions.HasParent plans (named "IAudited").key (named "IDocument").key := by
    show _ ∈ _
    decide
  refine ⟨ofDeclarations_eq, interfacePlans_eq, acyclic, by decide, fun h => ?_, by decide, by decide⟩
  obtain ⟨hfirst, -⟩ := List.pairwise_cons.1 h
  exact hfirst (named "IAudited") (List.mem_singleton_self _) (.single hparent)

end Audits

end Wiring
