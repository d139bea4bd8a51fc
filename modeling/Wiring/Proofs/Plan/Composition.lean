import Wiring.Proofs.Plan.Forwarding
import Wiring.Proofs.Plan.Scope
import Wiring.Proofs.Unit.Imports

/-!
Types seen through a chain. What a type sees beyond an ancestor is what the ancestor sees, with the arguments of the
ancestor put in: substitutions along a chain compose, whatever names the levels have for their parameters.
-/

namespace Wiring

namespace TypeRef

variable {m m' k : Bindings} {ps : List String} {r declared use : TypeRef}

/-- The type parameters in a reference are among those of the given names. -/
def MentionsOnly (ps : List String) (r : TypeRef) : Prop :=
  ∀ q ∈ r.mentions, q.isTypeParameter → q.name ∈ ps

instance (ps : List String) (r : TypeRef) : Decidable (r.MentionsOnly ps) :=
  inferInstanceAs (Decidable (∀ q ∈ r.mentions, q.isTypeParameter → q.name ∈ ps))

def Composes (ps : List String) (m k m' : Bindings) : Prop :=
  ∀ r : TypeRef, r.MentionsOnly ps → (r.substitute m).substitute k = r.substitute m'

mutual

theorem substitute_substitute
    (h : ∀ n ∈ ps, ∃ q, Assoc.find? n m = some q ∧ Assoc.find? n m' = some (q.substitute k)) :
    (r : TypeRef) → r.MentionsOnly ps → (r.substitute m).substitute k = r.substitute m'
  | ⟨p, n, as, true⟩, hr => by
    obtain ⟨q, hq, hq'⟩ := h n (hr ⟨p, n, as, true⟩ (by rw [mentions]; exact List.mem_cons_self) rfl)
    rw [substitute, substitute, hq, hq', Option.getD_some, Option.getD_some]
  | ⟨p, n, as, false⟩, hr => by
    have has : ∀ q ∈ mentionsAll as, q.isTypeParameter → q.name ∈ ps := by
      intro q hq
      exact hr q (by rw [mentions]; exact List.mem_cons_of_mem _ hq)
    rw [substitute, substitute, substitute, substituteAll_substituteAll h as has]

theorem substituteAll_substituteAll
    (h : ∀ n ∈ ps, ∃ q, Assoc.find? n m = some q ∧ Assoc.find? n m' = some (q.substitute k)) :
    (rs : List TypeRef) → (∀ q ∈ mentionsAll rs, q.isTypeParameter → q.name ∈ ps) →
      substituteAll k (substituteAll m rs) = substituteAll m' rs
  | [], _ => rfl
  | r :: rs, hrs => by
    rw [mentionsAll, List.forall_mem_append] at hrs
    rw [substituteAll, substituteAll, substituteAll, substitute_substitute h r hrs.1,
      substituteAll_substituteAll h rs hrs.2]

end

lemma composes_nil (ps : List String) (k : Bindings) : Composes ps [] k k := by
  intro r _
  rw [substitute_nil]

def Applies (declared use : TypeRef) : Prop :=
  declared.typeParameters = [] ∨
    use.isTypeParameter = false ∧ declared.typeParameters.length = use.arguments.length

lemma Applies.substitute (h : Applies declared use) (m : Bindings) : Applies declared (use.substitute m) := by
  refine h.imp_right fun ⟨htype, hlength⟩ => ?_
  obtain ⟨htype', -, hlength'⟩ := substitute_isTypeParameter htype m
  exact ⟨htype', hlength.trans hlength'.symm⟩

lemma Applies.composes (h : Applies declared use) (k : Bindings) :
    Composes declared.parameterNames (declared.bindings use) k (declared.bindings (use.substitute k)) := by
  refine fun r => substitute_substitute (fun n hn => ?_) r
  obtain hnone | ⟨htype, hlength⟩ := h
  · rw [parameterNames, hnone] at hn
    cases hn
  have harguments : (use.substitute k).arguments = use.arguments.map (TypeRef.substitute k) := by
    obtain ⟨p, n, as, t⟩ := use
    cases htype
    rw [TypeRef.substitute, substituteAll_eq_map]
  have hlength' : declared.typeParameters.length = (use.substitute k).arguments.length := by
    rw [harguments, List.length_map, hlength]
  have hnames : declared.parameterNames.length = use.arguments.length := (List.length_map _).trans hlength
  obtain ⟨a, -, hfound, hmapped⟩ := Assoc.exists_find?_ofPairs_zip hn hnames (TypeRef.substitute k)
  rw [bindings, bindings, if_pos hlength, if_pos hlength', harguments]
  exact ⟨a, hfound, hmapped⟩

end TypeRef

open TypeRef

def Ancestor.substitute (k : Bindings) (a : Ancestor) : Ancestor :=
  { a with ref := a.ref.substitute k }

namespace Settings

def IsContextual (s : Settings) (t : TypeRef) : Prop :=
  t.arguments = [] ∧ t.fullName ∈ s.contextualTypes

lemma specialize_of_not_isContextual {s : Settings} {t : TypeRef} (h : ¬s.IsContextual t) (owner : TypeRef) :
    s.specialize t owner = t :=
  if_neg h

end Settings

namespace Conventions

/-- Class bases and dependencies are written over the parameters of the type that has them, and a base is written
with an argument for each parameter of its class. -/
structure Applied (s : Settings) (set : DeclarationSet) : Prop where
  supplied : ∀ d ∈ set.types, ∀ b ∈ set.classBase? d, b.1.arguments.length = b.2.ref.typeParameters.length
  plain : ∀ d ∈ set.types, ∀ b ∈ set.classBase? d, b.1.isTypeParameter → b.1.arguments = []
  bases : ∀ d ∈ set.types, ∀ b ∈ set.classBase? d, b.1.MentionsOnly d.ref.parameterNames
  dependencies : ∀ d ∈ set.types, ∀ m ∈ s.dependencies d, m.type.MentionsOnly d.ref.parameterNames

structure BasesApplied (set : DeclarationSet) : Prop where
  supplied : ∀ d ∈ set.types, ∀ b ∈ set.classBase? d, b.1.arguments.length = b.2.ref.typeParameters.length
  plain : ∀ d ∈ set.types, ∀ b ∈ set.classBase? d, b.1.isTypeParameter → b.1.arguments = []
  bases : ∀ d ∈ set.types, ∀ b ∈ set.classBase? d, b.1.MentionsOnly d.ref.parameterNames

variable {set : DeclarationSet} {c : Conventions} {s : Settings} {d e : TypeDeclaration} {m k : Bindings}

lemma Applied.basesApplied (h : Applied s set) : BasesApplied set where
  supplied := h.supplied
  plain := h.plain
  bases := h.bases

lemma BasesApplied.applies (h : BasesApplied set) (hd : d ∈ set.types) {r : TypeRef} {b : TypeDeclaration}
    (hb : set.classBase? d = some (r, b)) : Applies b.ref r := by
  have hlength := h.supplied d hd _ hb
  cases htype : r.isTypeParameter with
  | true =>
    rw [h.plain d hd _ hb htype] at hlength
    exact Or.inl (List.length_eq_zero_iff.1 hlength.symm)
  | false => exact Or.inr ⟨htype, hlength.symm⟩

/-! Chains from one type on, under different bindings of its parameters. -/

lemma chainFrom_substitute (h : BasesApplied set) {v v' : List String} {m' : Bindings} {as as' : List Ancestor}
    (hd : d ∈ set.types) (hm : Composes d.ref.parameterNames m k m') (has : set.chainFrom v d m = .ok as)
    (has' : set.chainFrom v' d m' = .ok as') : as' = as.map (Ancestor.substitute k) := by
  induction as generalizing v v' d m m' as' with
  | nil =>
    have hdeclarations := DeclarationSet.chainFrom_declarations has has'
    rw [List.map_nil, List.nil_eq, List.map_eq_nil_iff] at hdeclarations
    rw [hdeclarations, List.map_nil]
  | cons a as ih =>
    obtain ⟨-, hnil⟩ | ⟨r, b, rest, hb, -, hrest, hcons⟩ := DeclarationSet.chainFrom_cases has
    · cases hnil
    obtain ⟨rfl, rfl⟩ := List.cons.inj hcons
    obtain ⟨hb', -⟩ | ⟨r', b', rest', hb', -, hrest', rfl⟩ := DeclarationSet.chainFrom_cases has'
    · cases hb.symm.trans hb'
    cases hb.symm.trans hb'
    have href : (r.substitute m).substitute k = r.substitute m' := hm r (h.bases d hd _ hb)
    have hbindings : Composes b.ref.parameterNames (b.ref.bindings (r.substitute m)) k
        (b.ref.bindings (r.substitute m')) := by
      rw [← href]
      exact ((h.applies hd hb).substitute m).composes k
    rw [List.map_cons, Ancestor.substitute, href, ih (DeclarationSet.mem_of_classBase? hb) hbindings hrest hrest']

lemma chainFrom_append {v : List String} {pre post : List Ancestor} {a : Ancestor}
    (h : set.chainFrom v d m = .ok (pre ++ a :: post)) :
    ∃ v', set.chainFrom v' a.declaration a.bindings = .ok post := by
  induction pre generalizing v d m with
  | nil =>
    obtain ⟨-, hnil⟩ | ⟨r, b, rest, -, -, hrest, hcons⟩ := DeclarationSet.chainFrom_cases h
    · cases hnil
    · obtain ⟨rfl, rfl⟩ := List.cons.inj hcons
      exact ⟨_, hrest⟩
  | cons p pre ih =>
    obtain ⟨-, hnil⟩ | ⟨r, b, rest, -, -, hrest, hcons⟩ := DeclarationSet.chainFrom_cases h
    · cases hnil
    · obtain ⟨rfl, rfl⟩ := List.cons.inj hcons
      exact ih hrest

lemma applies_of_mem_chainFrom (h : BasesApplied set) {v : List String} {as : List Ancestor} (hd : d ∈ set.types)
    (has : set.chainFrom v d m = .ok as) {a : Ancestor} (ha : a ∈ as) : Applies a.declaration.ref a.ref := by
  induction as generalizing v d m with
  | nil => cases ha
  | cons first as ih =>
    obtain ⟨-, hnil⟩ | ⟨r, b, rest, hb, -, hrest, hcons⟩ := DeclarationSet.chainFrom_cases has
    · cases hnil
    obtain ⟨rfl, rfl⟩ := List.cons.inj hcons
    obtain rfl | ha := List.mem_cons.1 ha
    · exact (h.applies hd hb).substitute m
    · exact ih (DeclarationSet.mem_of_classBase? hb) hrest ha

lemma ancestors_beyond (h : BasesApplied set) (hc : ofDeclarations set = .ok c) (hd : d ∈ set.types)
    {pre post : List Ancestor} {a : Ancestor} (hsplit : c.ancestors d = pre ++ a :: post) :
    post = (c.ancestors a.declaration).map (Ancestor.substitute a.bindings) := by
  have ha : a.declaration ∈ set.types := mem_types_of_mem_ancestors hc hd (by rw [hsplit]; simp)
  have hchain : set.chainFrom [d.fullName] d [] = .ok (pre ++ a :: post) := by
    rw [← hsplit]
    exact chain_eq_ok hc hd
  obtain ⟨v, hpost⟩ := chainFrom_append hchain
  exact chainFrom_substitute h ha (composes_nil _ _) (chain_eq_ok hc ha) hpost

lemma ancestors_suffix (h : Applied s set) (hc : ofDeclarations set = .ok c) (hd : d ∈ set.types)
    {pre post : List Ancestor} {a : Ancestor} (hsplit : c.ancestors d = pre ++ a :: post) :
    post = (c.ancestors a.declaration).map (Ancestor.substitute a.bindings) :=
  ancestors_beyond h.basesApplied hc hd hsplit

/-! Dependencies seen through an ancestor, and what is forwarded to it. -/

lemma inheritedDependencies_eq (h : Applied s set) (hc : ofDeclarations set = .ok c) (hd : d ∈ set.types)
    {pre post : List Ancestor} {a : Ancestor} (hsplit : c.ancestors d = pre ++ a :: post)
    (hpre : ∀ b ∈ pre, s.dependencies b.declaration = []) :
    c.inheritedDependencies s d = (ownDependencies s a.declaration ++ c.inheritedDependencies s a.declaration).map
      fun p => (p.1, p.2.substitute a.bindings) := by
  have ha : a.declaration ∈ set.types := mem_types_of_mem_ancestors hc hd (by rw [hsplit]; simp)
  have hnil : (pre.flatMap fun b => (s.dependencies b.declaration).map fun m => (m, m.type.substitute b.bindings)) =
      [] := by
    rw [List.flatMap_eq_nil_iff]
    intro b hb
    rw [hpre b hb, List.map_nil]
  have hown : (s.dependencies a.declaration).map (fun m => (m, m.type.substitute a.bindings)) =
      (ownDependencies s a.declaration).map fun p => (p.1, p.2.substitute a.bindings) := by
    rw [ownDependencies, List.map_map]
    rfl
  have hbeyond : ∀ b ∈ c.ancestors a.declaration, (s.dependencies b.declaration).map
        (fun m => (m, m.type.substitute (b.substitute a.bindings).bindings)) =
      ((s.dependencies b.declaration).map fun m => (m, m.type.substitute b.bindings)).map
        fun p => (p.1, p.2.substitute a.bindings) := by
    intro b hb
    have happlies := applies_of_mem_chainFrom h.basesApplied ha (chain_eq_ok hc ha) hb
    have hbs := mem_types_of_mem_ancestors hc ha hb
    rw [List.map_map]
    refine List.map_congr_left fun m hm => ?_
    exact congrArg (Prod.mk m) (happlies.composes a.bindings m.type (h.dependencies _ hbs m hm)).symm
  rw [inheritedDependencies, hsplit, List.flatMap_append, hnil, List.nil_append, List.flatMap_cons, hown,
    ancestors_suffix h hc hd hsplit, List.flatMap_map, List.map_append, inheritedDependencies, List.map_flatMap]
  exact congrArg _ (List.flatMap_congr hbeyond)

def parameterOf (s : Settings) (d : TypeDeclaration) (n : String) (p : MemberDeclaration × TypeRef) :
    InitializerParameter where
  name := n
  type := s.specialize p.2 d.ref
  member := p.1
  declaredBy := p.1.owner.getD d.ref

lemma parameters_eq (c : Conventions) (s : Settings) (d : TypeDeclaration) :
    (c.initializerPlan s d).parameters = List.zipWith (parameterOf s d) (c.parameterNames s d)
      (ownDependencies s d ++ c.inheritedDependencies s d) := by
  rw [← freshNames_eq_parameterNames]
  rfl

lemma getElem?_parameters {n : String} {p : MemberDeclaration × TypeRef} {i : Nat}
    (hn : (c.parameterNames s d)[i]? = some n)
    (hp : (ownDependencies s d ++ c.inheritedDependencies s d)[i]? = some p) :
    parameterOf s d n p ∈ (c.initializerPlan s d).parameters := by
  apply List.mem_of_getElem? (i := i)
  rw [parameters_eq, List.getElem?_zipWith, hn, hp]

/-- A parameter takes what a parameter of an initializer above it takes, with the arguments of the ancestor put in
unless one of the two is contextual. -/
def Passes (s : Settings) (d : TypeDeclaration) (a : Ancestor) (p q : InitializerParameter) : Prop :=
  p.member = q.member ∧ ∃ t, q.type = s.specialize t a.declaration.ref ∧
    p.type = s.specialize (t.substitute a.bindings) d.ref ∧
    (¬s.IsContextual t → ¬s.IsContextual (t.substitute a.bindings) → p.type = q.type.substitute a.bindings)

lemma passes_parameterOf (s : Settings) (d : TypeDeclaration) (a : Ancestor) (n n' : String) (m : MemberDeclaration)
    (t : TypeRef) : Passes s d a (parameterOf s d n (m, t.substitute a.bindings))
      (parameterOf s a.declaration n' (m, t)) := by
  refine ⟨rfl, t, rfl, rfl, fun ht hseen => ?_⟩
  rw [parameterOf, parameterOf, Settings.specialize_of_not_isContextual ht,
    Settings.specialize_of_not_isContextual hseen]

lemma forwarded_passes (h : Applied s set) (hc : ofDeclarations set = .ok c) (hd : d ∈ set.types) {a : Ancestor}
    (ha : (c.ancestors d).find? (fun b => c.isInitialized s b.declaration) = some a) :
    List.Forall₂ (fun n q => ∃ p ∈ (c.initializerPlan s d).parameters, p.name = n ∧ Passes s d a p q)
      (c.initializerPlan s d).forwarded (c.initializerPlan s a.declaration).parameters := by
  obtain ⟨-, pre, post, hsplit, hpre⟩ := List.find?_eq_some_iff_append.1 ha
  have hnearest : (c.superclasses d).find? (c.isInitialized s) = some a.declaration := by
    rw [superclasses, List.find?_map]
    exact congrArg (Option.map _) ha
  have hinherited := inheritedDependencies_eq h hc hd hsplit fun b hb =>
    dependencies_eq_nil (by simpa using hpre b hb)
  refine List.forall₂_iff_zip.2 ⟨?_, fun {n q} hnq => ?_⟩
  · rw [length_forwarded, length_parameters, inheritedRequirements_eq hc hd hnearest]
  obtain ⟨i, hi⟩ := List.mem_iff_getElem?.1 hnq
  obtain ⟨hn, hq⟩ := List.getElem?_zip_eq_some.1 hi
  rw [forwarded_eq, List.getElem?_drop] at hn
  rw [parameters_eq, List.getElem?_zipWith_eq_some] at hq
  obtain ⟨n', ⟨m, t⟩, -, ht, rfl⟩ := hq
  have hseen : (ownDependencies s d ++ c.inheritedDependencies s d)[(s.dependencies d).length + i]? =
      some (m, t.substitute a.bindings) := by
    have hown : (ownDependencies s d).length = (s.dependencies d).length := List.length_map _
    rw [List.getElem?_append_right (by omega), hown, Nat.add_sub_cancel_left, hinherited, List.getElem?_map, ht]
    rfl
  exact ⟨_, getElem?_parameters hn hseen, rfl, passes_parameterOf s d a n n' m t⟩

/-- Beyond any ancestor the chain is that of the ancestor, so are the dependencies, and what is forwarded is what the
nearest initializer above takes: all of it seen with the arguments of the ancestor. -/
theorem types_compose (h : Applied s set) (hc : ofDeclarations set = .ok c) (hd : d ∈ set.types) :
    (∀ pre a post, c.ancestors d = pre ++ a :: post →
        post = (c.ancestors a.declaration).map (Ancestor.substitute a.bindings)) ∧
      (∀ a post, c.ancestors d = a :: post →
        c.inheritedDependencies s d = (ownDependencies s a.declaration ++ c.inheritedDependencies s a.declaration).map
          fun p => (p.1, p.2.substitute a.bindings)) ∧
      ∀ a, (c.ancestors d).find? (fun b => c.isInitialized s b.declaration) = some a →
        List.Forall₂ (fun n q => ∃ p ∈ (c.initializerPlan s d).parameters, p.name = n ∧ Passes s d a p q)
          (c.initializerPlan s d).forwarded (c.initializerPlan s a.declaration).parameters := by
  refine ⟨fun pre a post hsplit => ancestors_suffix h hc hd hsplit, fun a post hsplit => ?_, fun a ha => ?_⟩
  · have hnearest : c.ancestors d = [] ++ a :: post := hsplit
    exact inheritedDependencies_eq h hc hd hnearest (List.forall_mem_nil _)
  · exact forwarded_passes h hc hd ha

end Conventions

/-! Yards of depots of racks of shelves, each level with boxes of what the level below has. -/

namespace Yards

open Documents (named dependency)
open Stores (element applied)

def box (r : TypeRef) : TypeRef :=
  applied "Box" r

def shelf : TypeDeclaration where
  ref := applied "Shelf" element
  members := [{ dependency "Shelf" "_items" "Box" with type := box element }]

def rack : TypeDeclaration where
  ref := applied "Rack" element
  base := some (applied "Shelf" (box element))

def depot : TypeDeclaration where
  ref := applied "Depot" { element with name := "K" }
  base := some (applied "Rack" (box { element with name := "K" }))

def yard : TypeDeclaration where
  ref := named "Yard"
  base := some (applied "Depot" (named "User"))
  annotations := [{ name := "Transient" }]

def declarations : DeclarationSet where
  types := [shelf, rack, depot, yard]
  keys_nodup := by decide

def conventions : Conventions where
  declarations := declarations
  links := []
  chains := [(shelf.key, []), (rack.key, [⟨shelf, applied "Shelf" (box element)⟩]),
    (depot.key, [⟨rack, applied "Rack" (box { element with name := "K" })⟩,
      ⟨shelf, applied "Shelf" (box (box { element with name := "K" }))⟩]),
    (yard.key, [⟨depot, applied "Depot" (named "User")⟩, ⟨rack, applied "Rack" (box (named "User"))⟩,
      ⟨shelf, applied "Shelf" (box (box (named "User")))⟩])]

lemma applied_declarations : Conventions.Applied {} declarations where
  supplied := by decide
  plain := by decide
  bases := by decide
  dependencies := by decide

theorem items_composed :
    Conventions.ofDeclarations declarations = .ok conventions ∧
      ∃ p ∈ (conventions.initializerPlan {} yard).parameters,
        p.name = "items" ∧ p.type = box (box (box (named "User"))) := by
  have hc : Conventions.ofDeclarations declarations = .ok conventions := by cbv
  obtain ⟨-, -, hforwarded⟩ := Conventions.types_compose applied_declarations hc (d := yard) (by decide)
  have hpasses := hforwarded ⟨depot, applied "Depot" (named "User")⟩ (by decide)
  have hnames : (conventions.initializerPlan {} yard).forwarded = ["items"] := by decide
  rw [hnames] at hpasses
  cases hpasses with
  | cons hitems _ =>
    obtain ⟨p, hp, hname, -, t, hq, htype, -⟩ := hitems
    have htaken : box (box (box { element with name := "K" })) =
        ({} : Settings).specialize t (applied "Depot" { element with name := "K" }) := hq
    rw [Settings.specialize] at htaken
    split at htaken
    · have harguments : [box (box { element with name := "K" })] = [applied "Depot" { element with name := "K" }] :=
        congrArg TypeRef.arguments htaken
      exact absurd harguments (by decide)
    · subst htaken
      exact ⟨hc, p, hp, hname, htype⟩

end Yards

/-! A grid of rows of boxes. The base of a row is written as a type parameter with an argument. -/

namespace Grids

open Documents (named)
open Stores (element applied)

def item : TypeDeclaration where
  ref := applied "Item" element

def cell : TypeDeclaration where
  ref := applied "Cell" element
  base := some (applied "Item" element)

def row : TypeDeclaration where
  ref := applied "Row" { element with name := "Cell" }
  base := some { applied "Cell" (named "User") with isTypeParameter := true }

def grid : TypeDeclaration where
  ref := named "Grid"
  base := some (applied "Row" (named "Box"))

def declarations : DeclarationSet where
  types := [item, cell, row, grid]
  keys_nodup := by decide

def conventions : Conventions where
  declarations := declarations
  links := []
  chains := [(item.key, []), (cell.key, [⟨item, applied "Item" element⟩]),
    (row.key, [⟨cell, { applied "Cell" (named "User") with isTypeParameter := true }⟩,
      ⟨item, applied "Item" (named "User")⟩]),
    (grid.key, [⟨row, applied "Row" (named "Box")⟩, ⟨cell, named "Box"⟩, ⟨item, applied "Item" element⟩])]

theorem grid_not_composed :
    Conventions.ofDeclarations declarations = .ok conventions ∧
      (∀ d ∈ declarations.types, d.members = [] ∧ ∀ b ∈ declarations.classBase? d,
        b.1.arguments.length = b.2.ref.typeParameters.length ∧ b.1.MentionsOnly d.ref.parameterNames) ∧
      ∃ a post, conventions.ancestors grid = a :: post ∧
        post ≠ (conventions.ancestors a.declaration).map (Ancestor.substitute a.bindings) :=
  ⟨by cbv, by decide, _, _, rfl, by decide⟩

end Grids

end Wiring
