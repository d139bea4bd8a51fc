import Wiring.Proofs.Plan.Composition

/-!
Services of derived types. The parents of an interface are seen with the arguments that the interface is seen with. So
a walk from what an ancestor names is, with the arguments of the ancestor put in, a walk from what the type names.
-/

namespace Wiring

open TypeRef

namespace Conventions

variable {c : Conventions} {d e : TypeDeclaration} {l : InterfaceLink} {r p q : TypeRef} {a : Ancestor}
  {plans : List InterfacePlan} {depth : Nat} {closure closure' : List TypeRef} {package : String} {ps : List String}

def Supplied (c : Conventions) (r : TypeRef) : Prop :=
  r.isTypeParameter = false ∧ (∀ e ∈ c.declarations.find? r, e.isInterface → Supplies e.ref r) ∧
    ∀ l ∈ c.linkTo? r.key, l.synthesized → Supplies l.source r

instance (c : Conventions) (r : TypeRef) : Decidable (c.Supplied r) :=
  inferInstanceAs (Decidable (_ ∧ (∀ e ∈ c.declarations.find? r, e.isInterface → Supplies e.ref r) ∧
    ∀ l ∈ c.linkTo? r.key, l.synthesized → Supplies l.source r))

def Written (c : Conventions) (ps : List String) (r : TypeRef) : Prop :=
  c.Supplied r ∧ r.MentionsOnly ps

instance (c : Conventions) (ps : List String) (r : TypeRef) : Decidable (c.Written ps r) :=
  inferInstanceAs (Decidable (_ ∧ _))

/-- What types name is written over their own parameters. So is the interface of a base where another one is taken for
it. -/
structure InterfacesApplied (c : Conventions) : Prop where
  named : ∀ d ∈ c.declarations.types, ∀ r ∈ c.directInterfaces d true, c.Written d.ref.parameterNames r
  parents : ∀ d ∈ c.declarations.types, d.isInterface → ∀ p ∈ d.interfaceParents,
    c.Written d.ref.parameterNames (c.bind p d.package)
  base : ∀ d ∈ c.declarations.types, ∀ p ∈ c.baseParent? d, c.bind p d.package ≠ p →
    c.Written d.ref.parameterNames (c.bind p d.package)

lemma Supplied.substitute (h : c.Supplied r) (k : Bindings) : c.Supplied (r.substitute k) := by
  obtain ⟨htype, hdeclared, hlinked⟩ := h
  obtain ⟨htype', hkey, hlength⟩ := substitute_isTypeParameter htype k
  refine ⟨htype', fun e he hinterface => ?_, fun l hl hsynthesized => ?_⟩
  · rw [DeclarationSet.find?, hkey] at he
    rw [Supplies, hlength]
    exact hdeclared e he hinterface
  · rw [hkey] at hl
    rw [Supplies, hlength]
    exact hlinked l hl hsynthesized

lemma Written.seen {declared : TypeRef} (hp : c.Written declared.parameterNames (c.bind p package))
    (happlies : Applies declared r) (k : Bindings) :
    c.Supplied (c.bind (p.substitute (declared.bindings r)) package) ∧
      (c.bind (p.substitute (declared.bindings r)) package).substitute k =
        c.bind (p.substitute (declared.bindings (r.substitute k))) package := by
  obtain ⟨hsupplied, hmentions⟩ := hp
  have htype : p.isTypeParameter = false := (bind_isTypeParameter c p package).symm.trans hsupplied.1
  rw [bind_substitute_comm htype, bind_substitute_comm htype]
  exact ⟨hsupplied.substitute _, happlies.composes k _ hmentions⟩

/-! The parents of what is seen. -/

lemma head?_of_draftBase? {al : InterfaceLink} (h : c.draftBase? d = some (a, al)) :
    (c.ancestors d).head? = some a := by
  obtain ⟨first, hfirst, h⟩ := Option.bind_eq_some_iff.1 h
  obtain ⟨al', -, h⟩ := Option.bind_eq_some_iff.1 h
  split at h
  · cases h
    exact hfirst
  · cases h

section

variable (hc : ofDeclarations c.declarations = .ok c) (hbases : BasesApplied c.declarations)
  (happlied : c.InterfacesApplied)
include hc hbases

lemma baseParent?_written (he : c.IsDrafted e l) (hp : c.baseParent? e = some p) :
    c.Written e.ref.parameterNames p := by
  obtain ⟨⟨a, al⟩, ha, rfl⟩ := Option.map_eq_some_iff.1 hp
  obtain ⟨had, -⟩ := draftBase?_cases hc he ha
  have hhead := head?_of_draftBase? ha
  obtain ⟨-, hnil⟩ | ⟨r, b, rest, hb, -, hancestors, -⟩ := ancestors_cases hc he.declared
  · rw [hnil] at hhead
    cases hhead
  rw [hancestors] at hhead
  cases hhead
  have hsource := (DeclarationSet.link?_cases ((link?_eq hc had.declared).symm.trans had.linked)).1
  have htype := interface_isTypeParameter hc had.declared had.linked
  refine ⟨⟨htype, fun f hf hinterface => ?_, fun l' hl' _ => ?_⟩, fun q hq hparameter => ?_⟩
  · cases hinterface.symm.trans (not_isInterface_of_synthesized hc had.declared had.linked had.synthesized hf)
  · cases (linkTo?_interface hc had.declared had.linked).symm.trans hl'
    rw [hsource]
    exact .inr (hbases.supplied e he.declared _ hb).symm
  · have hmentions := hbases.bases e he.declared _ hb q
    obtain ⟨p, n, as, t⟩ := r
    rw [draftRef, TypeRef.withArguments, TypeRef.withArguments, mentions] at hq
    obtain rfl | hq := List.mem_cons.1 hq
    · cases htype.symm.trans hparameter
    · exact hmentions (by rw [mentions]; exact List.mem_cons_of_mem _ hq) hparameter

include happlied

lemma draftParents_written (he : c.IsDrafted e l) (hp : p ∈ c.draftParents e l) :
    c.Written e.ref.parameterNames (c.bind p e.package) := by
  obtain hbase | hdirect := draftParents_cases hp
  · by_cases hbound : c.bind p e.package = p
    · rw [hbound]
      exact baseParent?_written hc hbases he hbase
    · exact happlied.base e he.declared p hbase hbound
  · rw [bind_of_mem_directInterfaces hc he.declared hdirect]
    exact happlied.named e he.declared p (directInterfaces_subset c e hdirect)

variable (hall : List.Forall₂ (fun d plan => ∃ l, c.IsDrafted d l ∧ c.PlanOf d l plan)
    (c.declarations.types.filter c.synthesizesInterface) plans)
include hall

lemma Supplied.parent (hr : c.Supplied r) (hq : q ∈ c.parentsOf plans r) (k : Bindings) :
    c.Supplied q ∧ q.substitute k ∈ c.parentsOf plans (r.substitute k) := by
  have hkey := (substitute_isTypeParameter hr.1 k).2.1
  obtain ⟨e, p, he, hinterface, hp, rfl⟩ | ⟨plan, p, hplan, hplankey, hp, rfl⟩ :=
    (mem_parentsOf_iff hc hall).1 hq
  · have hwritten := happlied.parents e (DeclarationSet.get?_mem he).1 hinterface p (mem_interfaceParents.2 hp)
    have happlies : Applies e.ref r := (hr.2.1 e he hinterface).imp_right fun hlength => ⟨hr.1, hlength⟩
    obtain ⟨hsupplied, hseen⟩ := hwritten.seen happlies k
    refine ⟨hsupplied, (mem_parentsOf_iff hc hall).2 (.inl ⟨e, p, ?_, hinterface, hp, hseen⟩)⟩
    rwa [DeclarationSet.find?, hkey]
  · obtain ⟨e, l, he, ⟨known, rfl⟩, -⟩ := exists_planOf hall hplan
    have hlink : c.linkTo? r.key = some l := hplankey ▸ linkTo?_interface hc he.declared he.linked
    have hsource := (DeclarationSet.link?_cases ((link?_eq hc he.declared).symm.trans he.linked)).1
    have happlies : Applies (draftRef e l) r := by
      have hsupplies := hr.2.2 l hlink he.synthesized
      rw [hsource] at hsupplies
      exact hsupplies.imp_right fun hlength => ⟨hr.1, hlength⟩
    have hwritten : c.Written (draftRef e l).parameterNames (c.bind p (draftRef e l).package) := by
      have hpackage : (draftRef e l).package = e.package := interface_package hc he.declared he.linked
      rw [hpackage]
      exact draftParents_written hc hbases happlied he hp
    obtain ⟨hsupplied, hseen⟩ := hwritten.seen happlies k
    exact ⟨hsupplied, (mem_parentsOf_iff hc hall).2 (.inr ⟨_, p, hplan, hplankey.trans hkey.symm, hp, hseen⟩)⟩

/-! Walks of an ancestor. -/

omit hbases hall in
lemma named_seen (hd : d ∈ c.declarations.types) (ha : a ∈ c.ancestors d)
    (hclosure : c.interfaceClosure plans depth d = some closure) (hr : r ∈ c.directInterfaces a.declaration true) :
    c.Supplied r ∧ r.substitute a.bindings ∈ closure := by
  have had := mem_types_of_mem_ancestors hc hd ha
  have hsupplied := (happlied.named _ had r hr).1
  have hbound := bind_of_mem_directInterfaces hc had hr
  have hseen := ancestorInterface_mem_closure hclosure ha hr
  rw [bind_substitute_comm hsupplied.1, hbound] at hseen
  exact ⟨hsupplied, hseen⟩

omit hall in
lemma inherited_seen (hd : d ∈ c.declarations.types) (ha : a ∈ c.ancestors d)
    (hclosure : c.interfaceClosure plans depth d = some closure) {b : Ancestor} (hb : b ∈ c.ancestors a.declaration)
    (hr : r ∈ c.directInterfaces b.declaration true) :
    c.Supplied (c.bind (r.substitute b.bindings) b.declaration.package) ∧
      (c.bind (r.substitute b.bindings) b.declaration.package).substitute a.bindings ∈ closure := by
  have had := mem_types_of_mem_ancestors hc hd ha
  have hbd := mem_types_of_mem_ancestors hc had hb
  have hbeyond : b.substitute a.bindings ∈ c.ancestors d := by
    obtain ⟨pre, post, hsplit⟩ := List.append_of_mem ha
    rw [hsplit, ancestors_beyond hbases hc hd hsplit]
    exact List.mem_append_right _ (List.mem_cons_of_mem _ (List.mem_map_of_mem hb))
  have hwritten : c.Written b.declaration.ref.parameterNames (c.bind r b.declaration.package) := by
    rw [bind_of_mem_directInterfaces hc hbd hr]
    exact happlied.named _ hbd r hr
  obtain ⟨hsupplied, hseen⟩ :=
    hwritten.seen (applies_of_mem_chainFrom hbases had (chain_eq_ok hc had) hb) a.bindings
  have hmem := ancestorInterface_mem_closure hclosure hbeyond hr
  exact ⟨hsupplied, hseen ▸ hmem⟩

lemma closure_substitute (hd : d ∈ c.declarations.types) (ha : a ∈ c.ancestors d)
    (hclosure : c.interfaceClosure plans depth d = some closure)
    (hancestor : c.interfaceClosure plans depth a.declaration = some closure') (hr : r ∈ closure') :
    r.substitute a.bindings ∈ closure := by
  have had := mem_types_of_mem_ancestors hc hd ha
  suffices hseen : c.Supplied r ∧ r.substitute a.bindings ∈ closure from hseen.2
  refine closure_induction hc had hancestor (fun r hr => named_seen hc happlied hd ha hclosure hr)
    (fun b hb r hr => inherited_seen hc hbases happlied hd ha hclosure hb hr) ?_ hr
  rintro r q ⟨hsupplied, hr⟩ hq
  obtain ⟨hsupplied', hq'⟩ := hsupplied.parent hc hbases happlied hall hq a.bindings
  exact ⟨hsupplied', parentsOf_subset hclosure hr hq'⟩

end

end Conventions

open Conventions

/-- What an ancestor is registered for beside itself, the type is registered for with the arguments of the ancestor
put in. -/
theorem Design.services_derived {st : Settings} {depth : Nat} {set : DeclarationSet} {g : Design}
    (hg : Design.ofDeclarations st depth set = .ok g) (hbases : BasesApplied set)
    (happlied : g.conventions.InterfacesApplied) {d : TypeDeclaration} (hd : d ∈ set.types)
    (hlifetime : (st.lifetime? d).isSome) {a : Ancestor} (ha : a ∈ g.conventions.ancestors d) {e : ServiceEntry}
    (he : e ∈ g.graph.services) (himplementation : e.implementation = a.declaration.ref)
    (hother : e.service ≠ a.declaration.ref) :
    ∃ e' ∈ g.graph.services, e'.implementation = d.ref ∧ e'.service = e.service.substitute a.bindings := by
  obtain ⟨hc, hgraph, rfl, hall⟩ := Design.planOf_of_ofDeclarations hg
  have had := mem_types_of_mem_ancestors hc hd ha
  have hancestor : (st.lifetime? a.declaration).isSome := by
    obtain ⟨f, hf, href, hsome⟩ := exists_annotated_of_mem_services hgraph he
    obtain rfl := DeclarationSet.eq_of_key_eq hf had (congrArg TypeRef.key (href.symm.trans himplementation))
    rw [hsome]
    rfl
  have hservices := services_of_graphOf g.conventions.declarations.keys_nodup hgraph hd hlifetime
  have hservices' := services_of_graphOf g.conventions.declarations.keys_nodup hgraph had hancestor
  obtain ⟨closure, rest, hclosure, hrest, -, hmem⟩ := registeredServices_cases hc hd hservices
  obtain ⟨closure', rest', hclosure', hrest', -, hmem'⟩ := registeredServices_cases hc had hservices'
  have hservice : e.service ∈ rest' := by
    have hentry : e.service ∈ (g.graph.services.filter (·.implementation = a.declaration.ref)).map (·.service) :=
      List.mem_map_of_mem (List.mem_filter.2 ⟨he, decide_eq_true himplementation⟩)
    rw [hrest'] at hentry
    exact (List.mem_cons.1 hentry).resolve_left hother
  have hseen : e.service.substitute a.bindings ∈ closure := by
    obtain hr | ⟨l, hl, -, hr⟩ := (hmem' _).1 hservice
    · exact closure_substitute hc hbases happlied hall hd ha hclosure hclosure' hr
    · rw [hr]
      exact (named_seen hc happlied hd ha hclosure (interface_mem_directInterfaces hc had hl)).2
  have hregistered : e.service.substitute a.bindings ∈
      (g.graph.services.filter (·.implementation = d.ref)).map (·.service) := by
    rw [hrest]
    exact List.mem_cons_of_mem _ ((hmem _).2 (.inl hseen))
  obtain ⟨e', he', hequal⟩ := List.mem_map.1 hregistered
  obtain ⟨he', himplementation'⟩ := List.mem_filter.1 he'
  exact ⟨e', he', of_decide_eq_true himplementation', hequal⟩

/-! Trays are boxes of users, and a box is a store of its items. -/

namespace Trays

open Documents (named)
open Stores (element applied settings)

def placeholder (name : String) : TypeRef :=
  { name }

def registered (ref : TypeRef) (base : Option TypeRef) (interfaces : List TypeRef) : TypeDeclaration where
  ref
  base
  interfaces
  annotations := [{ name := "Transient" }]

def link (source interface : TypeRef) (viaBase : Bool) : InterfaceLink where
  source
  placeholder := placeholder interface.name
  interface
  viaBase
  handAuthored := false

def plan (source interface : TypeRef) (parents : List TypeRef) : InterfacePlan where
  ref := interface
  source
  parents

def design (conventions : Conventions) (interfaces : List InterfacePlan)
    (services : List (TypeDeclaration × List TypeRef)) : Design where
  conventions
  interfaces
  initializers := conventions.initializerPlans settings
  graph := { services := services.flatMap fun p => (p.1.ref :: p.2).map fun service =>
    { service, implementation := p.1.ref, lifetime := .transient } }

def store : TypeDeclaration where
  ref := applied "IStore" { name := "K", isTypeParameter := true }
  interfaces := [applied "IReader" { name := "K", isTypeParameter := true }]
  isInterface := true

def box : TypeDeclaration :=
  registered (applied "Box" element) (some (placeholder "IBox")) [applied "IStore" element]

def tray : TypeDeclaration :=
  registered (named "Tray") (some (applied "Box" (named "User"))) []

def trays : DeclarationSet where
  types := [store, box, tray]
  keys_nodup := by decide

def trayConventions : Conventions where
  declarations := trays
  links := [link box.ref (applied "IBox" element) true]
  chains := [(store.key, []), (box.key, []), (tray.key, [⟨box, applied "Box" (named "User")⟩])]

def trayDesign : Design :=
  design trayConventions [plan box.ref (applied "IBox" element) [applied "IStore" element]]
    [(box, ["IStore", "IReader", "IBox"].map (applied · element)),
      (tray, ["IBox", "IStore", "IReader"].map (applied · (named "User")))]

lemma ofDeclarations_trays : Design.ofDeclarations settings 4 trays = .ok trayDesign := by
  have hc : Conventions.ofDeclarations trays = .ok trayConventions := by cbv
  exact Design.ofDeclarations_eq_ok.2 ⟨hc, by decide +kernel, rfl, by decide +kernel⟩

theorem reader_registered :
    { service := applied "IReader" element, implementation := box.ref, lifetime := .transient } ∈
        trayDesign.graph.services ∧
      ∃ e ∈ trayDesign.graph.services, e.implementation = tray.ref ∧
        e.service = applied "IReader" (named "User") := by
  have hreader : { service := applied "IReader" element, implementation := box.ref, lifetime := .transient } ∈
      trayDesign.graph.services := by
    decide
  refine ⟨hreader, ?_⟩
  exact Design.services_derived ofDeclarations_trays (a := ⟨box, applied "Box" (named "User")⟩)
    { supplied := by decide, plain := by decide, bases := by decide }
    { named := by decide, parents := by decide, base := by decide }
    (by decide) (by decide) (by decide) hreader rfl (by decide)

def widget : TypeDeclaration where
  ref := named "Widget"
  interfaces := [placeholder "IWidget"]

def pouch : TypeDeclaration :=
  registered (applied "Pouch" element) none [element]

def purse : TypeDeclaration :=
  registered (named "Purse") (some (applied "Pouch" (placeholder "IWidget"))) []

def purses : DeclarationSet where
  types := [widget, pouch, purse]
  keys_nodup := by decide

def purseConventions : Conventions where
  declarations := purses
  links := [link widget.ref (named "IWidget") false]
  chains := [(widget.key, []), (pouch.key, []), (purse.key, [⟨pouch, applied "Pouch" (placeholder "IWidget")⟩])]

def purseDesign : Design :=
  design purseConventions [plan widget.ref (named "IWidget") []] [(pouch, [element]), (purse, [named "IWidget"])]

lemma ofDeclarations_purses : Design.ofDeclarations settings 4 purses = .ok purseDesign := by
  have hc : Conventions.ofDeclarations purses = .ok purseConventions := by cbv
  exact Design.ofDeclarations_eq_ok.2 ⟨hc, by decide +kernel, rfl, by decide +kernel⟩

def crate : TypeDeclaration :=
  registered (applied "Crate" (applied "List" element)) none [placeholder "ICrate"]

def pallet : TypeDeclaration :=
  registered (applied "Pallet" element) (some (named "Crate")) []

def load : TypeDeclaration :=
  registered (named "Load") (some (applied "Pallet" (named "User"))) []

def loads : DeclarationSet where
  types := [crate, pallet, load]
  keys_nodup := by decide

def crateInterface : TypeRef :=
  applied "ICrate" (applied "List" element)

def loadConventions : Conventions where
  declarations := loads
  links := [link crate.ref crateInterface false]
  chains := [(crate.key, []), (pallet.key, [⟨crate, named "Crate"⟩]),
    (load.key, [⟨pallet, applied "Pallet" (named "User")⟩, ⟨crate, named "Crate"⟩])]

def loadDesign : Design :=
  design loadConventions [plan crate.ref crateInterface []]
    [(crate, [crateInterface]), (pallet, [crateInterface]), (load, [crateInterface])]

lemma ofDeclarations_loads : Design.ofDeclarations settings 4 loads = .ok loadDesign := by
  have hc : Conventions.ofDeclarations loads = .ok loadConventions := by cbv
  exact Design.ofDeclarations_eq_ok.2 ⟨hc, by decide +kernel, rfl, by decide +kernel⟩

/-- References as they are written: over the parameters of the type, with an argument for each parameter of what they
name. -/
def AppliedAsWritten (c : Conventions) : Prop :=
  ∀ d ∈ c.declarations.types, ∀ w ∈ d.writtenRefs, w.1.MentionsOnly d.ref.parameterNames ∧
    (∀ e ∈ c.declarations.find? (c.bind w.1 d.package), e.ref.typeParameters.length = w.1.arguments.length) ∧
    ∀ l ∈ c.linkTo? (c.bind w.1 d.package).key, l.source.typeParameters.length = w.1.arguments.length

instance (c : Conventions) : Decidable (AppliedAsWritten c) :=
  inferInstanceAs (Decidable (∀ d ∈ c.declarations.types, ∀ w ∈ d.writtenRefs,
    w.1.MentionsOnly d.ref.parameterNames ∧
    (∀ e ∈ c.declarations.find? (c.bind w.1 d.package), e.ref.typeParameters.length = w.1.arguments.length) ∧
    ∀ l ∈ c.linkTo? (c.bind w.1 d.package).key, l.source.typeParameters.length = w.1.arguments.length))

theorem services_not_derived :
    (Design.ofDeclarations settings 4 purses = .ok purseDesign ∧ AppliedAsWritten purseDesign.conventions ∧
        ∃ a ∈ purseDesign.conventions.ancestors purse, ∃ e ∈ purseDesign.graph.services,
          e.implementation = a.declaration.ref ∧ e.service ≠ a.declaration.ref ∧
          ∀ e' ∈ purseDesign.graph.services, e'.implementation = purse.ref →
            e'.service ≠ e.service.substitute a.bindings) ∧
      Design.ofDeclarations settings 4 loads = .ok loadDesign ∧ AppliedAsWritten loadDesign.conventions ∧
        ∃ a ∈ loadDesign.conventions.ancestors load, ∃ e ∈ loadDesign.graph.services,
          e.implementation = a.declaration.ref ∧ e.service ≠ a.declaration.ref ∧
          ∀ e' ∈ loadDesign.graph.services, e'.implementation = load.ref →
            e'.service ≠ e.service.substitute a.bindings :=
  ⟨⟨ofDeclarations_purses, by decide, by decide⟩, ofDeclarations_loads, by decide, by decide⟩

end Trays

end Wiring
