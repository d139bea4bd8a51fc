import Wiring.Container.Resolution
import Wiring.Proofs.Container.Growth
import Wiring.Proofs.Container.Supply
import Wiring.Proofs.Plan.Scope
import Wiring.Proofs.Unit.Imports
import Wiring.Proofs.Unit.Initialization

/-!
Closing over type arguments. What is put in the place of type parameters when plans are made, and what the container
puts in the place of type variables when it constructs a closed class, is the same: the container asks for the very
types that the plan says.
-/

namespace Wiring

open Container

/-! References and the types that they are read as. -/

def Container.ClassHead.IsClosable (c : ClassHead) : Prop :=
  TypeExpr.isForm c = false ∧ c ∉ Formation.genericBases

instance (c : ClassHead) : Decidable c.IsClosable :=
  inferInstanceAs (Decidable (_ ∧ _))

namespace TypeRef

variable {classes : TypeKey → ClassHead} {scope other : VariableScope} {ps : List String} {m : List (String × TypeExpr)}
  {k : Bindings} {r : TypeRef}

/-- What a name in a type stands for: one of some parameters, which takes no arguments, or a class. -/
def Stands (classes : TypeKey → ClassHead) (ps : List String) (r : TypeRef) : Prop :=
  if r.isTypeParameter then r.name ∈ ps ∧ r.arguments = [] else r.isGeneric → (classes r.key).IsClosable

instance (classes : TypeKey → ClassHead) (ps : List String) (r : TypeRef) : Decidable (r.Stands classes ps) :=
  inferInstanceAs (Decidable
    (if r.isTypeParameter then r.name ∈ ps ∧ r.arguments = [] else r.isGeneric → (classes r.key).IsClosable))

lemma readAll_eq_map (rs : List TypeRef) : readAll classes scope rs = rs.map (read classes scope) := by
  induction rs with
  | nil => rfl
  | cons r rs ih => rw [readAll, ih, List.map_cons]

lemma asArgument_read (r : TypeRef) : (r.read classes scope).asArgument = r.read classes scope := by
  obtain ⟨p, n, as, v⟩ := r
  cases v <;> cases as <;> simp only [read, TypeExpr.asArgument]

lemma map_asArgument_readAll (rs : List TypeRef) :
    (readAll classes scope rs).map TypeExpr.asArgument = readAll classes scope rs := by
  rw [readAll_eq_map, List.map_map]
  exact List.map_congr_left fun r _ => asArgument_read r

mutual

lemma forwardNames_read : (r : TypeRef) → (r.read classes scope).forwardNames = []
  | ⟨_, _, _, true⟩ => by simp only [read, TypeExpr.forwardNames]
  | ⟨_, _, [], false⟩ => by simp only [read, TypeExpr.forwardNames]
  | ⟨_, _, a :: as, false⟩ => by
    rw [read, TypeExpr.forwardNames, TypeExpr.allForwardNames, forwardNames_read a, allForwardNames_readAll as,
      List.append_nil]

lemma allForwardNames_readAll : (rs : List TypeRef) → TypeExpr.allForwardNames (readAll classes scope rs) = []
  | [] => by rw [readAll, TypeExpr.allForwardNames]
  | r :: rs => by
    rw [readAll, TypeExpr.allForwardNames, forwardNames_read r, allForwardNames_readAll rs, List.append_nil]

end

lemma closeAgain_readAll {c : ClassHead} (h : c.IsClosable) (rs : List TypeRef) :
    TypeExpr.closeAgain c (readAll classes scope rs) = .closed c (readAll classes scope rs) := by
  have hliteral : c ≠ TypeExpr.literalForm := by
    rintro rfl
    exact absurd h.1 (by decide)
  rw [TypeExpr.closeAgain, if_neg hliteral, map_asArgument_readAll, ite_self]

mutual

theorem substitute_read (h : ∀ n ∈ ps, ∃ q, Assoc.find? n k = some q ∧ Assoc.find? n m = some (q.read classes other)) :
    (r : TypeRef) → (∀ q ∈ r.mentions, q.Stands classes ps) →
      TypeExpr.substitute m (r.read classes scope) = (r.substitute k).read classes other
  | ⟨p, n, as, true⟩, hr => by
    rw [mentions, List.forall_mem_cons] at hr
    have hname : n ∈ ps ∧ as = [] := hr.1
    obtain ⟨q, hq, hq'⟩ := h n hname.1
    rw [read, TypeExpr.substitute, substitute, hq, hq', Option.getD_some, Option.getD_some]
  | ⟨p, n, [], false⟩, _ => by rw [read, TypeExpr.substitute, substitute, substituteAll, read]
  | ⟨p, n, a :: as, false⟩, hr => by
    rw [mentions, List.forall_mem_cons] at hr
    have hclosable : (classes (p, n)).IsClosable := hr.1 rfl
    have hall := substituteAll_readAll h (a :: as) hr.2
    rw [substituteAll, readAll, readAll] at hall
    rw [read, TypeExpr.substitute, substitute, substituteAll, read]
    split
    · rename_i hsame
      rw [← hsame, hall]
    · rw [hall, ← readAll, closeAgain_readAll hclosable]

theorem substituteAll_readAll
    (h : ∀ n ∈ ps, ∃ q, Assoc.find? n k = some q ∧ Assoc.find? n m = some (q.read classes other)) :
    (rs : List TypeRef) → (∀ q ∈ mentionsAll rs, q.Stands classes ps) →
      TypeExpr.substituteAll m (readAll classes scope rs) = readAll classes other (substituteAll k rs)
  | [], _ => by rw [readAll, TypeExpr.substituteAll, substituteAll, readAll]
  | r :: rs, hrs => by
    rw [mentionsAll, List.forall_mem_append] at hrs
    rw [readAll, TypeExpr.substituteAll, substituteAll, readAll, substitute_read h r hrs.1,
      substituteAll_readAll h rs hrs.2]

end

lemma checkClosable_of_isClosable {c : ClassHead} (h : c.IsClosable) (arguments : List TypeExpr) :
    Formation.checkClosable c arguments = .ok () := by
  have hform : c ∉ ["ClassVar", "Final", "TypeGuard", "Unpack"].map TypeExpr.formHead := by
    intro hc
    have hall : ∀ c ∈ ["ClassVar", "Final", "TypeGuard", "Unpack"].map TypeExpr.formHead, TypeExpr.isForm c := by
      decide
    exact absurd (hall c hc) (by simp [h.1])
  rw [Formation.checkClosable, if_neg hform, if_neg h.2]
  rfl

mutual

theorem checkSubstitution_read : (r : TypeRef) → (∀ q ∈ r.mentions, q.Stands classes ps) →
    Formation.checkSubstitution m (r.read classes scope) = .ok ()
  | ⟨p, n, as, true⟩, _ => by
    rw [read]
    rfl
  | ⟨p, n, [], false⟩, _ => by
    rw [read]
    rfl
  | ⟨p, n, a :: as, false⟩, hr => by
    rw [mentions, List.forall_mem_cons] at hr
    have hclosable : (classes (p, n)).IsClosable := hr.1 rfl
    have hall := checkSubstitutions_readAll (a :: as) hr.2
    rw [readAll] at hall
    rw [read, Formation.checkSubstitution, hall]
    refine Except.bind_eq_ok.2 ⟨(), rfl, ?_⟩
    split
    · exact checkClosable_of_isClosable hclosable _
    · rfl

theorem checkSubstitutions_readAll : (rs : List TypeRef) → (∀ q ∈ mentionsAll rs, q.Stands classes ps) →
    Formation.checkSubstitutions m (readAll classes scope rs) = .ok ()
  | [], _ => by
    rw [readAll]
    rfl
  | r :: rs, hrs => by
    rw [mentionsAll, List.forall_mem_append] at hrs
    rw [readAll, Formation.checkSubstitutions, checkSubstitution_read r hrs.1]
    exact checkSubstitutions_readAll rs hrs.2

end

lemma formation_substitute_read
    (h : ∀ n ∈ ps, ∃ q, Assoc.find? n k = some q ∧ Assoc.find? n m = some (q.read classes other))
    (hr : ∀ q ∈ r.mentions, q.Stands classes ps) :
    Formation.substitute m (r.read classes scope) = .ok ((r.substitute k).read classes other) := by
  rw [Formation.substitute, checkSubstitution_read r hr]
  refine Except.bind_eq_ok.2 ⟨(), rfl, ?_⟩
  rw [substitute_read h r hr]
  simp only [forwardNames_read]
  split <;> rfl

lemma exists_bound {As : List TypeRef} (h : As.length = ps.length) {n : String} (hn : n ∈ ps) :
    ∃ q, Assoc.find? n (Assoc.ofPairs (ps.zip As)) = some q ∧
      Assoc.find? n (Assoc.ofPairs (ps.zip (readAll classes scope As))) = some (q.read classes scope) := by
  obtain ⟨q, -, hfound, hread⟩ := Assoc.exists_find?_ofPairs_zip hn h.symm (read classes scope)
  rw [readAll_eq_map]
  exact ⟨q, hfound, hread⟩

end TypeRef

/-! What the container asks for on the way to an object of a closed class. -/

namespace Container.Resolving

def requestAll (ask : TypeExpr → Resolving Value) (c : TypeExpr) :
    List (String × TypeExpr) → Resolving (List (String × Value))
  | [] => return []
  | p :: ps => do
    let v ← mapFailure (.ofParameter c p.1) (ask p.2)
    return (p.1, v) :: (← requestAll ask c ps)

variable {classes : TypeKey → ClassHead} {scope other : VariableScope} {ps : List String} {m : List (String × TypeExpr)}
  {k : Bindings}

lemma parameterValues_eq (ask : TypeExpr → Resolving Value) (c : TypeExpr)
    (h : ∀ n ∈ ps, ∃ q, Assoc.find? n k = some q ∧ Assoc.find? n m = some (q.read classes other))
    {parameters : List InitializerParameter} (hstands : ∀ p ∈ parameters, ∀ q ∈ p.type.mentions, q.Stands classes ps) :
    parameterValues ask c m
        (parameters.map fun p => { name := p.name, hint := .type (p.type.read classes scope) }) =
      requestAll ask c (parameters.map fun p => (p.name, (p.type.substitute k).read classes other)) := by
  induction parameters with
  | nil => rfl
  | cons p parameters ih =>
    obtain ⟨hp, hparameters⟩ := List.forall_mem_cons.1 hstands
    have hask : askFor ask m (p.type.read classes scope) = ask ((p.type.substitute k).read classes other) := by
      rw [askFor, TypeRef.formation_substitute_read h hp]
    rw [List.map_cons, parameterValues, List.map_cons, requestAll, ih hparameters, if_neg (by simp)]
    dsimp only
    rw [hask]

lemma unreadable?_eq_none {slots : List Slot}
    (h : ∀ s ∈ slots, isKeyword s.name = false ∧ ∃ type, s.hint = .type type) : unreadable? slots = none := by
  have hname : slots.find? (fun s => isKeyword s.name) = none :=
    List.find?_eq_none.2 fun s hs => by simp [(h s hs).1]
  rw [unreadable?, hname]
  refine List.findSome?_eq_none_iff.2 fun s hs => ?_
  obtain ⟨type, htype⟩ := (h s hs).2
  rw [htype]

lemma construct_closed {t : ClassTable} {c o : ClassHead} {i : Initializer} (ask : Ask) (p : Nat)
    (arguments : List TypeExpr) (hi : t.initializer? c = some (o, i))
    (hslots : ∀ s ∈ i.slots, isKeyword s.name = false ∧ ∃ type, s.hint = .type type) :
    construct t ask p (.closed c arguments) =
      parameterValues (ask p) (.bare c) (Assoc.ofPairs (c.parameters.zip arguments)) i.slots >>=
        instantiate t ask (.closed c arguments) := by
  have hfound : slotsOf t (.closed c arguments) = i.slots := by
    rw [slotsOf, TypeExpr.head?, Option.bind_some, hi]
    · rfl
    all_goals simp
  rw [construct, hfound, unreadable?_eq_none hslots]
  rfl

end Container.Resolving

/-! What the types in a unit stand for. -/

namespace Container.TypeExpr

def over? (t : TypeExpr) (arguments : List TypeExpr) : Option TypeExpr :=
  match arguments, t with
  | [], t => some t
  | a :: as, .bare c => some (.closed c (a :: as))
  | _ :: _, _ => none

end Container.TypeExpr

namespace Term

mutual

def read? (names : String → Option TypeExpr) : Term → Option TypeExpr
  | mk n as => do (← names n).over? (← readAll? names as)

def readAll? (names : String → Option TypeExpr) : List Term → Option (List TypeExpr)
  | [] => some []
  | a :: as => do return (← read? names a) :: (← readAll? names as)

end

end Term

namespace InitializerUnit

/-- An initializer has the parameters of a unit, each of the type that it is written with. -/
def Gives (names : String → Option TypeExpr) (u : InitializerUnit) (i : Initializer) : Prop :=
  List.Forall₂ (fun p slot => ∃ t, p.2.read? names = some t ∧ slot = { name := p.1, hint := .type t }) u.parameters
    i.slots

end InitializerUnit

/-- The names in the parameters of the unit for a plan stand for the types that they were written for. -/
def InitializerPlan.Denotes (classes : TypeKey → ClassHead) (scope : VariableScope)
    (names : String → Option TypeExpr) (P : InitializerPlan) : Prop :=
  List.Forall₂ (fun p q =>
      List.Forall₂ (fun r n => names n = some ((r.withArguments []).read classes scope)) p.type.mentions q.2.names)
    P.parameters (InitializerUnit.ofPlan P).parameters

namespace ImportTable

open TypeRef (mentions mentionsAll)

variable {classes : TypeKey → ClassHead} {scope : VariableScope} {names : String → Option TypeExpr} {ps : List String}

mutual

lemma length_names_render : (r : TypeRef) → (t : ImportTable) →
    ((render r).run t).1.names.length = r.mentions.length
  | ⟨p, n, as, v⟩, t => by
    have hrest := length_names_renderAll as (t.nameOf ⟨p, n, as, v⟩).2
    rw [mentions, List.length_cons, ← hrest]
    rfl

lemma length_names_renderAll : (rs : List TypeRef) → (t : ImportTable) →
    (Term.namesAll ((renderAll rs).run t).1).length = (mentionsAll rs).length
  | [], _ => rfl
  | r :: rs, t => by
    have hfirst := length_names_render r t
    have hrest := length_names_renderAll rs ((render r).run t).2
    rw [mentionsAll, List.length_append, ← hfirst, ← hrest, ← List.length_append]
    rfl

end

mutual

theorem read?_render : (r : TypeRef) → (t : ImportTable) → (∀ q ∈ r.mentions, q.Stands classes ps) →
    List.Forall₂ (fun q n => names n = some ((q.withArguments []).read classes scope)) r.mentions
      ((render r).run t).1.names →
    ((render r).run t).1.read? names = some (r.read classes scope)
  | ⟨p, n, as, v⟩, t, hr, hnames => by
    have hterm : ((render ⟨p, n, as, v⟩).run t).1 =
        .mk (t.nameOf ⟨p, n, as, v⟩).1 ((renderAll as).run (t.nameOf ⟨p, n, as, v⟩).2).1 := rfl
    rw [mentions, List.forall_mem_cons] at hr
    rw [hterm, mentions, Term.names] at hnames
    cases hnames with
    | cons hname hrest =>
      have hall := readAll?_renderAll as _ hr.2 hrest
      rw [hterm, Term.read?, hname, hall]
      cases v with
      | true =>
        have hbare : n ∈ ps ∧ as = [] := hr.1
        rw [hbare.2]
        rfl
      | false =>
        cases as with
        | nil => rfl
        | cons a as =>
          rw [TypeRef.readAll, TypeRef.read]
          rfl

theorem readAll?_renderAll : (rs : List TypeRef) → (t : ImportTable) →
    (∀ q ∈ mentionsAll rs, q.Stands classes ps) →
    List.Forall₂ (fun q n => names n = some ((q.withArguments []).read classes scope)) (mentionsAll rs)
      (Term.namesAll ((renderAll rs).run t).1) →
    Term.readAll? names ((renderAll rs).run t).1 = some (TypeRef.readAll classes scope rs)
  | [], _, _, _ => by
    rw [TypeRef.readAll]
    rfl
  | r :: rs, t, hrs, hnames => by
    have hterms : ((renderAll (r :: rs)).run t).1 =
        ((render r).run t).1 :: ((renderAll rs).run ((render r).run t).2).1 := rfl
    rw [mentionsAll, List.forall_mem_append] at hrs
    rw [hterms, mentionsAll, Term.namesAll] at hnames
    have hfirst := List.forall₂_take_append _ _ _ hnames
    have hrest := List.forall₂_drop_append _ _ _ hnames
    rw [length_names_render, List.take_left] at hfirst
    rw [length_names_render, List.drop_left] at hrest
    rw [hterms, Term.readAll?, read?_render r t hrs.1 hfirst, readAll?_renderAll rs _ hrs.2 hrest, TypeRef.readAll]
    rfl

end

end ImportTable

namespace InitializerUnit

variable {classes : TypeKey → ClassHead} {scope : VariableScope} {names : String → Option TypeExpr} {ps : List String}

lemma renderParameters_terms (parameters : List InitializerParameter) (t : ImportTable) :
    List.Forall₂ (fun p q => q.1 = p.name ∧ ∃ t, q.2 = ((ImportTable.render p.type).run t).1) parameters
      ((renderParameters parameters).run t).1 := by
  induction parameters generalizing t with
  | nil => exact .nil
  | cons p parameters ih => exact .cons ⟨rfl, t, rfl⟩ (ih _)

lemma parameters_ofPlan (P : InitializerPlan) : (ofPlan P).parameters =
    ((renderParameters P.parameters).run (ImportTable.name P.owner (ImportTable.create [] P.bounds)).2).1 := by
  cases hb : P.base <;> simp [ofPlan, build, hb] <;> rfl

lemma slots_eq {P : InitializerPlan} {i : Initializer}
    (hstands : ∀ p ∈ P.parameters, ∀ r ∈ p.type.mentions, r.Stands classes ps)
    (hnames : P.Denotes classes scope names) (hgives : (ofPlan P).Gives names i) :
    i.slots = P.parameters.map fun p => { name := p.name, hint := .type (p.type.read classes scope) } := by
  have hterms := renderParameters_terms P.parameters (ImportTable.name P.owner (ImportTable.create [] P.bounds)).2
  rw [← parameters_ofPlan] at hterms
  rw [InitializerPlan.Denotes] at hnames
  rw [Gives] at hgives
  generalize (ofPlan P).parameters = written at hterms hnames hgives
  generalize P.parameters = parameters at hstands hterms hnames
  generalize i.slots = slots at hgives
  induction hterms generalizing slots with
  | nil =>
    cases hgives
    rfl
  | cons hterm _ ih =>
    cases hnames with
    | cons hname hnames =>
      cases hgives with
      | cons hslot hgives =>
        obtain ⟨hstand, hstands⟩ := List.forall_mem_cons.1 hstands
        obtain ⟨hp, t, ht⟩ := hterm
        obtain ⟨type, htype, rfl⟩ := hslot
        rw [ht] at hname htype
        have hread := ImportTable.read?_render _ t hstand hname
        rw [htype] at hread
        rw [List.map_cons, ← ih hstands hnames _ hgives, Option.some.inj hread, hp]

end InitializerUnit

/-! A request for a closed generic that an open mapping answers. -/

namespace Container

lemma Registrations.lookup_of_open {rs : Registrations} {c implementation : ClassHead} {arguments : List TypeExpr}
    {r : Registration} (hexact : Assoc.find? (TypeExpr.closed c arguments).identity rs = none)
    (hopen : Assoc.find? (.bare c) rs = some r) (hr : r.implementation = .bare implementation)
    (hlength : arguments.length = implementation.parameters.length) (hne : arguments ≠ []) :
    rs.lookup (.closed c arguments) = .ok (r, .closed implementation (arguments.map TypeExpr.asArgument)) := by
  have hparameters : r.openParameters = implementation.parameters := by
    rw [Registration.openParameters, hr]
    rfl
  have hisOpen : r.isOpen = true := by
    rw [Registration.isOpen, hparameters]
    cases hp : implementation.parameters with
    | nil =>
      rw [hp] at hlength
      exact absurd (List.length_eq_zero_iff.1 hlength) hne
    | cons => rfl
  have hfor : rs.openFor? (.closed c arguments) = some r := by
    rw [openFor?, hopen, Option.filter_some, if_pos hisOpen]
  have hclose : (r.implementation.head?.bind fun c => TypeExpr.close? c arguments) =
      some (.closed implementation (arguments.map TypeExpr.asArgument)) := by
    rw [hr, TypeExpr.head?, Option.bind_some, TypeExpr.close?, if_pos ⟨hlength, hne⟩]
  unfold lookup
  rw [hexact, hfor]
  simp only [hclose]

namespace Resolving

lemma supply_of_lookup {t : ClassTable} {ask : Ask} {p : Nat} {service implementation : TypeExpr} {w : World}
    {r : Registration} (hopen : (w.provider p).isClosed = false) (hprovider : service.isProvider = false)
    (hkey : service.asKey = .ok service) (hr : r.recipe = none)
    (hlookup : (w.provider p).registrations.lookup service = .ok (r, implementation)) :
    supply t ask p service w =
      within p service (getOrCreate p service r.lifetime (construct t ask p implementation)) w := by
  have hcreate : create t ask p r implementation = construct t ask p implementation := by
    rw [create, hr]
  rw [supply, get_bind, ← hcreate]
  dsimp only
  rw [hopen, hprovider, hkey, hlookup]
  rfl

end Resolving

end Container

lemma Conventions.isKeyword_name {set : DeclarationSet} {c : Conventions} {s : Settings} {P : InitializerPlan}
    (hc : ofDeclarations set = .ok c) (hP : P ∈ c.initializerPlans s) {q : InitializerParameter}
    (hq : q ∈ P.parameters) : isKeyword q.name = false := by
  obtain ⟨d, -, -, rfl⟩ := mem_initializerPlans hc hP
  have hname : q.name ∈ c.parameterNames s d := by
    rw [← map_name_parameters]
    exact List.mem_map_of_mem hq
  exact isKeyword_of_mem_freshNames hname

namespace ServiceEntry

variable {classes : TypeKey → ClassHead} {scope : VariableScope} {entries : List ServiceEntry} {e : ServiceEntry}
  {As : List TypeRef} {other : VariableScope}

lemma isOpenGeneric_of_parameterNames (h : e.implementation.parameterNames ≠ []) : e.isOpenGeneric := by
  rw [isOpenGeneric, TypeRef.isGeneric]
  cases ha : e.implementation.arguments with
  | nil =>
    rw [TypeRef.parameterNames, TypeRef.typeParameters, ha] at h
    exact absurd rfl h
  | cons => rfl

lemma lookup_table (hopen : e.isOpenGeneric)
    (himplementation : e.implementation.isTypeParameter = false)
    (hlast : lastFor? classes scope entries (.bare (classes e.service.key)) = some e)
    (hexact : ∀ f ∈ entries, f.rendered.1.read classes scope ≠
      .closed (classes e.service.key) (TypeRef.readAll classes other As))
    (hlength : As.length = (classes e.implementation.key).parameters.length) (hne : As ≠ []) :
    ∃ rs, table classes scope entries = .ok rs ∧
      rs.lookup (.closed (classes e.service.key) (TypeRef.readAll classes other As)) =
        .ok ((e.row classes scope).registration,
          .closed (classes e.implementation.key) (TypeRef.readAll classes other As)) := by
  refine ⟨_, table_eq classes scope entries, ?_⟩
  have hnone : Registrations.lastFor? (entries.map (row classes scope))
      (.closed (classes e.service.key) (TypeRef.readAll classes other As)) = none := by
    rw [Registrations.lastFor?_eq_none_iff]
    intro r hr
    obtain ⟨f, hf, rfl⟩ := List.mem_map.1 hr
    exact hexact f hf
  have hbare : Registrations.lastFor? (entries.map (row classes scope)) (.bare (classes e.service.key)) =
      some (e.row classes scope) := by
    rw [lastFor?_rows, hlast, Option.map_some]
  have hrow : (e.row classes scope).registration.implementation = .bare (classes e.implementation.key) := by
    rw [Row.registration, row, rendered, if_pos hopen]
    exact TypeRef.read_bare classes scope himplementation
  have hgiven : TypeRef.readAll classes other As ≠ [] := by
    intro hnil
    have hl := TypeRef.length_readAll classes other As
    rw [hnil] at hl
    exact hne (List.length_eq_zero_iff.1 hl.symm)
  rw [Registrations.lookup_of_open ?_ ?_ hrow ?_ hgiven, TypeRef.map_asArgument_readAll]
  · rw [TypeExpr.identity, TypeRef.identities_readAll, Registrations.find?_ofPairs_rows, hnone, Option.map_none]
  · rw [Registrations.find?_ofPairs_rows, hbare, Option.map_some]
  · rw [TypeRef.length_readAll, hlength]

end ServiceEntry

open Container.Resolving

/-- To construct a generic class that is closed over types, the container asks in order for the types that the plan of
the class says, closed over the same types; and so it does for a closed service that an open mapping leads from to
the class. Typing aliases, which stand for another class than they are named for, are left out. -/
theorem Design.closing_agrees {s : Settings} {depth : Nat} {set : DeclarationSet} {g : Design}
    (hg : Design.ofDeclarations s depth set = .ok g) {P : InitializerPlan} (hP : P ∈ g.initializers)
    (hclass : P.owner.isTypeParameter = false) {classes : TypeKey → ClassHead} {scope : VariableScope}
    {names : String → Option TypeExpr} {i : Initializer}
    (hparameters : (classes P.owner.key).parameters = P.owner.parameterNames)
    (hstands : ∀ p ∈ P.parameters, ∀ r ∈ p.type.mentions, r.Stands classes P.owner.parameterNames)
    (hnames : P.Denotes classes scope names) (hgives : (InitializerUnit.ofPlan P).Gives names i)
    {As : List TypeRef} (hlength : As.length = P.owner.parameterNames.length) (hne : As ≠ [])
    (other : VariableScope) :
    let closed (r : TypeRef) := TypeExpr.closed (classes r.key) (TypeRef.readAll classes other As)
    let written := g.graph.services.filter (·.isExpressible)
    (∀ (t : ClassTable) (o : ClassHead) (ask : Ask) (p : Nat),
        t.initializer? (classes P.owner.key) = some (o, i) →
        construct t ask p (closed P.owner) =
          requestAll (ask p) (.bare (classes P.owner.key)) (P.parameters.map fun q =>
              (q.name, (q.type.substitute (Assoc.ofPairs (P.owner.parameterNames.zip As))).read classes other)) >>=
            instantiate t ask (closed P.owner)) ∧
      ∀ e ∈ written, e.implementation = P.owner → ∀ unit : VariableScope,
        ServiceEntry.lastFor? classes unit written (.bare (classes e.service.key)) = some e →
        (∀ f ∈ written, f.rendered.1.read classes unit ≠ closed e.service) →
        ∃ rs, ServiceEntry.table classes unit written = .ok rs ∧
          ∀ (t : ClassTable) (ask : Ask) (p : Nat) (w : World), (w.provider p).isClosed = false →
            (w.provider p).registrations = rs →
            supply t ask p (closed e.service) w =
              within p (closed e.service)
                (getOrCreate p (closed e.service) e.lifetime (construct t ask p (closed P.owner))) w := by
  intro closed written
  obtain ⟨hc, -, hinitializers, -⟩ := Design.ofDeclarations_eq_ok.1 hg
  have hslots := InitializerUnit.slots_eq hstands hnames hgives
  constructor
  · intro t o ask p hi
    have hreadable : ∀ slot ∈ i.slots, isKeyword slot.name = false ∧ ∃ type, slot.hint = .type type := by
      rw [hslots]
      intro slot hslot
      obtain ⟨q, hq, rfl⟩ := List.mem_map.1 hslot
      exact ⟨Conventions.isKeyword_name hc (hinitializers ▸ hP) hq, _, rfl⟩
    have hbound : ∀ n ∈ P.owner.parameterNames, ∃ q,
        Assoc.find? n (Assoc.ofPairs (P.owner.parameterNames.zip As)) = some q ∧
          Assoc.find? n (Assoc.ofPairs (P.owner.parameterNames.zip (TypeRef.readAll classes other As))) =
            some (q.read classes other) :=
      fun n hn => TypeRef.exists_bound hlength hn
    rw [construct_closed ask p _ hi hreadable, hslots, hparameters, parameterValues_eq (ask p) _ hbound hstands]
  · intro e he himplementation unit hlast hexact
    have hopen : e.isOpenGeneric := by
      refine ServiceEntry.isOpenGeneric_of_parameterNames fun hnone => ?_
      rw [← himplementation, hnone] at hlength
      exact hne (List.length_eq_zero_iff.1 hlength)
    have hcount : As.length = (classes e.implementation.key).parameters.length := by
      rw [himplementation, hparameters, hlength]
    obtain ⟨rs, hrs, hlookup⟩ := ServiceEntry.lookup_table hopen (himplementation ▸ hclass) hlast hexact
      hcount hne
    refine ⟨rs, hrs, fun t ask p w hclosed hregistrations => ?_⟩
    rw [himplementation, ← hregistrations] at hlookup
    have hkey : (closed e.service).asKey = .ok (closed e.service) := by
      rw [TypeExpr.asKey, TypeExpr.unkeyable?, TypeRef.anyUnkeyable?_readAll, TypeExpr.identity,
        TypeRef.identities_readAll]
    exact supply_of_lookup hclosed (by simp [closed, TypeExpr.isProvider]) hkey rfl hlookup

/-! Indices of values by keys, on shelves of boxes. -/

namespace Indices

open Documents (named dependency)
open Stores (element applied)

def pair (name : String) (first second : TypeRef) : TypeRef :=
  (named name).withArguments [first, second]

def byKey : TypeRef :=
  { element with name := "K" }

def lookup : TypeDeclaration where
  ref := pair "ILookup" byKey element
  isInterface := true

def index : TypeDeclaration where
  ref := pair "Index" byKey element
  interfaces := [pair "ILookup" byKey element]
  members := [{ dependency "Index" "_shelf" "Shelf" with type := pair "Shelf" (applied "Box" element) byKey },
    dependency "Index" "_clock" "Clock"]
  annotations := [{ name := "Transient" }]

def declarations : DeclarationSet where
  types := [lookup, index]
  keys_nodup := by decide

def conventions : Conventions where
  declarations := declarations
  links := []
  chains := [(lookup.key, []), (index.key, [])]

def plan : InitializerPlan :=
  conventions.initializerPlan {} index

def design : Design where
  conventions := conventions
  interfaces := []
  initializers := [plan]
  graph := {
    services := [index.ref, lookup.ref].map fun r =>
      { service := r, implementation := index.ref, lifetime := .transient }
    edges := index.members.map fun m => { owner := index.ref, required := m.type, member := some m.name } }

lemma ofDeclarations_eq : Design.ofDeclarations {} 2 declarations = .ok design := by
  have hc : Conventions.ofDeclarations declarations = .ok conventions := by cbv
  exact Design.ofDeclarations_eq_ok.2 ⟨hc, by decide +kernel, by decide +kernel, by decide +kernel⟩

def classes : TypeKey → ClassHead :=
  declarations.classOf fun _ => []

def scope : VariableScope :=
  .unit "app.Index.initializer"

def names (n : String) : Option TypeExpr :=
  Assoc.find? n (["Shelf", "Box", "Clock"].map (fun c => (c, .bare (classes ("app", c)))) ++
    ["K", "T"].map fun v => (v, .variable scope v))

def initializer : Initializer where
  name := InitializerUnit.functionName
  slots := plan.parameters.map fun p => { name := p.name, hint := .type (p.type.read classes scope) }
  body := []

lemma denotes : plan.Denotes classes scope names :=
  .cons (.cons rfl (.cons rfl (.cons rfl (.cons rfl .nil)))) (.cons (.cons rfl .nil) .nil)

lemma gives : (InitializerUnit.ofPlan plan).Gives names initializer :=
  .cons ⟨_, rfl, rfl⟩ (.cons ⟨_, rfl, rfl⟩ .nil)

def table : ClassTable :=
  [{ head := classes index.key, lineage := [classes index.key], initializer := some initializer }]

def users : TypeRef :=
  applied "Page" (named "User")

def given : List TypeExpr :=
  TypeRef.readAll classes scope [named "User", users]

theorem lookup_closed_asks :
    let asked := [("shelf", (pair "Shelf" (applied "Box" users) (named "User")).read classes scope),
      ("clock", (named "Clock").read classes scope)]
    (∀ (ask : Ask) (p : Nat), construct table ask p (.closed (classes index.key) given) =
        requestAll (ask p) (.bare (classes index.key)) asked >>=
          instantiate table ask (.closed (classes index.key) given)) ∧
      ∃ rs, ServiceEntry.table classes scope design.graph.services = .ok rs ∧
        ∀ (ask : Ask) (p : Nat) (w : World), (w.provider p).isClosed = false → (w.provider p).registrations = rs →
          supply table ask p (.closed (classes lookup.key) given) w =
            within p (.closed (classes lookup.key) given) (getOrCreate p (.closed (classes lookup.key) given) .transient
              (construct table ask p (.closed (classes index.key) given))) w := by
  intro asked
  have hcount : [named "User", users].length = plan.owner.parameterNames.length := rfl
  obtain ⟨hconstruct, hsupply⟩ := Design.closing_agrees ofDeclarations_eq (by decide) rfl rfl (by decide) denotes gives
    hcount (by decide) scope
  obtain ⟨rs, hrs, hrun⟩ := hsupply { service := lookup.ref, implementation := index.ref, lifetime := .transient }
    (by decide) rfl scope (by decide) (by decide)
  exact ⟨fun ask p => hconstruct table (classes index.key) ask p rfl, rs, hrs, hrun table⟩

end Indices

end Wiring
