import Wiring.Proofs.Plan.Services

/-!
What the services of a type mention. If every reference that a type names is bound, over the type parameters of that
type, and has an argument for each parameter of what it names, then all that is registered for a type is over the
parameters of this type.
-/

namespace Wiring

namespace TypeRef

mutual

def isOver (ps : List String) : TypeRef → Bool
  | ⟨_, n, as, true⟩ => decide (n ∈ ps) && areOver ps as
  | ⟨p, _, as, false⟩ => decide (p ≠ "") && areOver ps as

def areOver (ps : List String) : List TypeRef → Bool
  | [] => true
  | a :: as => isOver ps a && areOver ps as

end

variable {r q : TypeRef} {ps qs : List String} {m : Bindings}

lemma areOver_iff {rs : List TypeRef} : areOver ps rs ↔ ∀ r ∈ rs, r.isOver ps := by
  induction rs with
  | nil => simp [areOver]
  | cons r rs ih => rw [areOver, Bool.and_eq_true, ih, List.forall_mem_cons]

lemma isOver_iff (h : r.isTypeParameter = false) : r.isOver ps ↔ r.package ≠ "" ∧ ∀ a ∈ r.arguments, a.isOver ps := by
  obtain ⟨p, n, as, t⟩ := r
  cases h
  rw [isOver, Bool.and_eq_true, areOver_iff, decide_eq_true_iff]

def Carries (ps : List String) (m : Bindings) (qs : List String) : Prop :=
  ∀ r : TypeRef, r.isOver ps → (r.substitute m).isOver qs

mutual

theorem isOver_substitute (h : ∀ n ∈ ps, ∃ q, Assoc.find? n m = some q ∧ q.isOver qs) :
    (r : TypeRef) → r.isOver ps → (r.substitute m).isOver qs
  | ⟨p, n, as, true⟩, hr => by
    rw [isOver, Bool.and_eq_true, decide_eq_true_iff] at hr
    obtain ⟨q, hq, hover⟩ := h n hr.1
    rwa [substitute, hq, Option.getD_some]
  | ⟨p, n, as, false⟩, hr => by
    rw [isOver, Bool.and_eq_true] at hr
    rw [substitute, isOver, Bool.and_eq_true]
    exact ⟨hr.1, areOver_substituteAll h as hr.2⟩

theorem areOver_substituteAll (h : ∀ n ∈ ps, ∃ q, Assoc.find? n m = some q ∧ q.isOver qs) :
    (rs : List TypeRef) → areOver ps rs → areOver qs (substituteAll m rs)
  | [], _ => by rw [substituteAll, areOver]
  | r :: rs, hrs => by
    rw [areOver, Bool.and_eq_true] at hrs
    rw [substituteAll, areOver, Bool.and_eq_true]
    exact ⟨isOver_substitute h r hrs.1, areOver_substituteAll h rs hrs.2⟩

end

lemma carries_nil (ps : List String) : Carries ps [] ps := by
  intro r hr
  rwa [substitute_nil]

/-- A use supplies a declared reference if it has an argument for each parameter, if there are any. -/
def Supplies (declared use : TypeRef) : Prop :=
  declared.typeParameters = [] ∨ declared.typeParameters.length = use.arguments.length

instance (declared use : TypeRef) : Decidable (Supplies declared use) :=
  inferInstanceAs (Decidable (_ ∨ _))

def parameterNames (r : TypeRef) : List String :=
  r.typeParameters.map (·.name)

lemma carries_bindings {declared use : TypeRef} (h : Supplies declared use)
    (hover : ∀ a ∈ use.arguments, a.isOver qs) : Carries declared.parameterNames (declared.bindings use) qs := by
  refine fun r => isOver_substitute (fun n hn => ?_) r
  obtain hnone | hlength := h
  · rw [parameterNames, hnone] at hn
    cases hn
  · have hnames : declared.parameterNames.length = use.arguments.length := (List.length_map _).trans hlength
    obtain ⟨a, ha, hfound, -⟩ := Assoc.exists_find?_ofPairs_zip hn hnames id
    rw [bindings, if_pos hlength]
    exact ⟨a, hfound, hover a ha⟩

lemma substitute_isTypeParameter (h : r.isTypeParameter = false) (m : Bindings) :
    (r.substitute m).isTypeParameter = false ∧ (r.substitute m).key = r.key ∧
      (r.substitute m).arguments.length = r.arguments.length := by
  obtain ⟨p, n, as, t⟩ := r
  cases h
  rw [substitute, substituteAll_eq_map]
  exact ⟨rfl, rfl, List.length_map _⟩

end TypeRef

namespace Conventions

open TypeRef

variable {c : Conventions} {d e : TypeDeclaration} {l : InterfaceLink} {r q : TypeRef} {plans : List InterfacePlan}
  {depth : Nat} {ps qs : List String} {m : Bindings} {closure services : List TypeRef}

def Scoped (c : Conventions) (ps : List String) (r : TypeRef) : Prop :=
  r.isTypeParameter = false ∧ r.isOver ps ∧
    (∀ e ∈ c.declarations.find? r, e.isInterface → Supplies e.ref r) ∧
    ∀ l ∈ c.linkTo? r.key, Supplies l.source r

instance (c : Conventions) (ps : List String) (r : TypeRef) : Decidable (c.Scoped ps r) :=
  inferInstanceAs (Decidable (_ ∧ _ ∧ (∀ e ∈ c.declarations.find? r, e.isInterface → Supplies e.ref r) ∧
    ∀ l ∈ c.linkTo? r.key, Supplies l.source r))

/-- What a declaration names is over its own parameters, and so is the declared reference itself. -/
def WellScoped (c : Conventions) : Prop :=
  ∀ d ∈ c.declarations.types,
    (d.ref.isTypeParameter = false ∧ d.ref.isOver d.ref.parameterNames) ∧
    (∀ r ∈ c.directInterfaces d true, c.Scoped d.ref.parameterNames r) ∧
    (d.isInterface → ∀ p ∈ d.interfaceParents,
      p.isTypeParameter = false ∧ c.Scoped d.ref.parameterNames (c.bind p d.package)) ∧
    ∀ b ∈ c.declarations.classBase? d,
      b.1.isTypeParameter = false ∧ b.1.isOver d.ref.parameterNames ∧ Supplies b.2.ref b.1

instance (c : Conventions) : Decidable c.WellScoped :=
  inferInstanceAs (Decidable (∀ d ∈ c.declarations.types,
    (d.ref.isTypeParameter = false ∧ d.ref.isOver d.ref.parameterNames) ∧
    (∀ r ∈ c.directInterfaces d true, c.Scoped d.ref.parameterNames r) ∧
    (d.isInterface → ∀ p ∈ d.interfaceParents,
      p.isTypeParameter = false ∧ c.Scoped d.ref.parameterNames (c.bind p d.package)) ∧
    ∀ b ∈ c.declarations.classBase? d,
      b.1.isTypeParameter = false ∧ b.1.isOver d.ref.parameterNames ∧ Supplies b.2.ref b.1))

lemma Scoped.arguments (h : c.Scoped ps r) : ∀ a ∈ r.arguments, a.isOver ps :=
  ((isOver_iff h.1).1 h.2.1).2

lemma Scoped.bind_eq (h : c.Scoped ps r) (package : String) : c.bind r package = r :=
  bind_of_package_ne ((isOver_iff h.1).1 h.2.1).1 package

lemma Scoped.substitute (h : c.Scoped ps r) (hm : Carries ps m qs) : c.Scoped qs (r.substitute m) := by
  obtain ⟨htype, hover, hdeclared, hlinked⟩ := h
  obtain ⟨htype', hkey, hlength⟩ := substitute_isTypeParameter htype m
  refine ⟨htype', hm r hover, fun e he hinterface => ?_, fun l hl => ?_⟩
  · rw [DeclarationSet.find?, hkey] at he
    rw [Supplies, hlength]
    exact hdeclared e he hinterface
  · rw [hkey] at hl
    rw [Supplies, hlength]
    exact hlinked l hl

lemma bind_substitute_comm (h : r.isTypeParameter = false) (m : Bindings) (package : String) :
    c.bind (r.substitute m) package = (c.bind r package).substitute m := by
  obtain ⟨p, n, as, t⟩ := r
  cases h
  rw [TypeRef.substitute, bind, bind]
  split
  · rename_i hpending
    have hp : (⟨p, n, as, false⟩ : TypeRef).isPending && (c.linkTo? (package, n)).isSome := hpending
    rw [if_pos hp, TypeRef.inPackage, TypeRef.inPackage, TypeRef.substitute]
  · rename_i hpending
    have hp : ¬((⟨p, n, as, false⟩ : TypeRef).isPending && (c.linkTo? (package, n)).isSome) := hpending
    rw [if_neg hp, TypeRef.substitute]

/-! What a type and its ancestors name. -/

lemma ancestors_scoped_of_chainFrom (hscoped : c.WellScoped) {v : List String} {as : List Ancestor}
    (hd : d ∈ c.declarations.types) (hm : Carries d.ref.parameterNames m qs)
    (h : c.declarations.chainFrom v d m = .ok as) {a : Ancestor} (ha : a ∈ as) :
    a.declaration ∈ c.declarations.types ∧ (∀ b ∈ a.ref.arguments, b.isOver qs) ∧
      Supplies a.declaration.ref a.ref := by
  induction as generalizing v d m with
  | nil => cases ha
  | cons first as ih =>
    obtain ⟨-, hnil⟩ | ⟨r, b, rest, hbase, -, hrest, hcons⟩ := DeclarationSet.chainFrom_cases h
    · cases hnil
    obtain ⟨rfl, rfl⟩ := List.cons.inj hcons
    obtain ⟨htype, hover, hsupplies⟩ := (hscoped d hd).2.2.2 (r, b) hbase
    obtain ⟨htype', -, hlength⟩ := substitute_isTypeParameter htype m
    have harguments := ((isOver_iff htype').1 (hm r hover)).2
    have hsupplies' : Supplies b.ref (r.substitute m) := by
      rw [Supplies, hlength]
      exact hsupplies
    have hb := DeclarationSet.mem_of_classBase? hbase
    obtain rfl | ha := List.mem_cons.1 ha
    · exact ⟨hb, harguments, hsupplies'⟩
    · exact ih hb (carries_bindings hsupplies' harguments) hrest ha

lemma ancestor_scoped (hc : ofDeclarations c.declarations = .ok c) (hscoped : c.WellScoped)
    (hd : d ∈ c.declarations.types) {a : Ancestor} (ha : a ∈ c.ancestors d) :
    a.declaration ∈ c.declarations.types ∧ (∀ b ∈ a.ref.arguments, b.isOver d.ref.parameterNames) ∧
      Supplies a.declaration.ref a.ref :=
  ancestors_scoped_of_chainFrom hscoped hd (carries_nil _) (chain_eq_ok hc hd) ha

lemma inherited_scoped (hc : ofDeclarations c.declarations = .ok c) (hscoped : c.WellScoped)
    (hd : d ∈ c.declarations.types) {a : Ancestor} (ha : a ∈ c.ancestors d) (hr : r ∈ c.inheritedInterfaces a) :
    c.Scoped d.ref.parameterNames r := by
  obtain ⟨had, harguments, hsupplies⟩ := ancestor_scoped hc hscoped hd ha
  obtain ⟨q, hq, rfl⟩ := List.mem_map.1 hr
  have hq := ((hscoped _ had).2.1 q hq).substitute (carries_bindings hsupplies harguments)
  rw [← Ancestor.bindings] at hq
  rwa [hq.bind_eq]

lemma draftParents_scoped (hc : ofDeclarations c.declarations = .ok c) (hscoped : c.WellScoped)
    (he : c.IsDrafted e l) (hr : r ∈ c.draftParents e l) : c.Scoped e.ref.parameterNames r := by
  obtain hbase | hdirect := draftParents_cases hr
  · obtain ⟨⟨a, al⟩, ha, rfl⟩ := Option.map_eq_some_iff.1 hbase
    obtain ⟨had, -⟩ := draftBase?_cases hc he ha
    obtain ⟨-, harguments, hsupplies⟩ := ancestor_scoped hc hscoped he.declared (mem_ancestors_of_draftBase? ha).1
    have hsource := (DeclarationSet.link?_cases ((link?_eq hc had.declared).symm.trans had.linked)).1
    have htype := interface_isTypeParameter hc had.declared had.linked
    have hpackage : al.interface.package ≠ "" := by
      rw [interface_package hc had.declared had.linked]
      obtain ⟨htype, hover⟩ := (hscoped _ had.declared).1
      exact ((isOver_iff htype).1 hover).1
    refine ⟨htype, ?_, fun b hb hinterface => ?_, fun l hl => ?_⟩
    · have htype' : ((draftRef a.declaration al).withArguments a.ref.arguments).isTypeParameter = false := htype
      rw [isOver_iff htype']
      exact ⟨hpackage, harguments⟩
    · have hnot := not_isInterface_of_synthesized hc had.declared had.linked had.synthesized hb
      cases hinterface.symm.trans hnot
    · cases (linkTo?_interface hc had.declared had.linked).symm.trans hl
      rw [hsource]
      exact hsupplies
  · exact (hscoped e he.declared).2.1 r (directInterfaces_subset c e hdirect)

variable (hc : ofDeclarations c.declarations = .ok c)
  (hall : List.Forall₂ (fun d plan => ∃ l, c.IsDrafted d l ∧ c.PlanOf d l plan)
    (c.declarations.types.filter c.synthesizesInterface) plans)
  (hscoped : c.WellScoped)
include hc hall hscoped

lemma Scoped.parent (h : c.Scoped ps r) (hq : q ∈ c.parentsOf plans r) : c.Scoped ps q := by
  obtain ⟨e, p, he, hinterface, hp, rfl⟩ | ⟨plan, p, hplan, hkey, hp, rfl⟩ := (mem_parentsOf_iff hc hall).1 hq
  · have hparent := (hscoped e (DeclarationSet.get?_mem he).1).2.2.1 hinterface p (mem_interfaceParents.2 hp)
    rw [bind_substitute_comm hparent.1]
    exact hparent.2.substitute (carries_bindings (h.2.2.1 e he hinterface) h.arguments)
  · obtain ⟨e, l, he, ⟨known, rfl⟩, -⟩ := exists_planOf hall hplan
    have hsource := (DeclarationSet.link?_cases ((link?_eq hc he.declared).symm.trans he.linked)).1
    have hlink : c.linkTo? r.key = some l := by
      rw [← hkey]
      exact linkTo?_interface hc he.declared he.linked
    have hsupplies : Supplies e.ref r := by
      rw [← hsource]
      exact h.2.2.2 l hlink
    have hparent := (draftParents_scoped hc hscoped he hp).substitute (carries_bindings hsupplies h.arguments)
    change c.Scoped ps (c.bind (p.substitute (e.ref.bindings r)) _)
    rwa [hparent.bind_eq]

lemma closure_scoped (hd : d ∈ c.declarations.types) (hclosure : c.interfaceClosure plans depth d = some closure)
    (hr : r ∈ closure) : c.Scoped d.ref.parameterNames r := by
  refine closure_induction hc hd hclosure (hscoped d hd).2.1 (fun a ha r hr => ?_)
    (fun r q hr hq => hr.parent hc hall hscoped hq) hr
  exact inherited_scoped hc hscoped hd ha (List.mem_map_of_mem hr)

theorem services_over (hd : d ∈ c.declarations.types) (h : c.registeredServices plans depth d = some services)
    (hr : r ∈ services) : r.isTypeParameter = false ∧ r.isOver d.ref.parameterNames := by
  obtain ⟨closure, rest, hclosure, rfl, -, hmem⟩ := registeredServices_cases hc hd h
  obtain rfl | hr := List.mem_cons.1 hr
  · exact (hscoped d hd).1
  · obtain hr | ⟨l, hl, -, rfl⟩ := (hmem r).1 hr
    · have hservice := closure_scoped hc hall hscoped hd hclosure hr
      exact ⟨hservice.1, hservice.2.1⟩
    · have hown := (hscoped d hd).2.1 _ (interface_mem_directInterfaces hc hd hl)
      exact ⟨hown.1, hown.2.1⟩

end Conventions

end Wiring
