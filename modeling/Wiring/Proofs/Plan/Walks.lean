import Wiring.Proofs.Conventions.Closure
import Wiring.Proofs.Plan.Drafts

/-!
The two walks over the interfaces of a type: that of the queries made for its plan, and that of its closure once all
plans are there. Both start from the interfaces that the type and its ancestors name, and go on to the same parents.
-/

namespace Wiring

namespace Conventions

variable {c : Conventions} {d : TypeDeclaration} {l : InterfaceLink} {r q : TypeRef} {package : String}
  {memo : List (TypeKey × InterfacePlan)} {plans : List InterfacePlan} {depth : Nat} {closure : List TypeRef}

/-! References that are bound. -/

lemma bind_of_package_eq (h : r.package = package) : c.bind r package = r := by
  obtain ⟨p, n, as, t⟩ := r
  cases h
  rw [bind]
  split <;> rfl

lemma bind_bind (c : Conventions) (r : TypeRef) (package : String) :
    c.bind (c.bind r package) package = c.bind r package := by
  by_cases h : (r.isPending && (c.linkTo? (package, r.name)).isSome) = true
  · have hbind : c.bind r package = r.inPackage package := by rw [bind, if_pos h]
    rw [hbind]
    exact bind_of_package_eq rfl
  · have hbind : c.bind r package = r := by rw [bind, if_neg h]
    rw [hbind, hbind]

lemma bind_isTypeParameter (c : Conventions) (r : TypeRef) (package : String) :
    (c.bind r package).isTypeParameter = r.isTypeParameter := by
  rw [bind]
  split <;> rfl

lemma bind_substitute (hr : r.isTypeParameter = false) (h : c.bind r package = r) (m : Bindings) :
    c.bind (r.substitute m) package = r.substitute m := by
  obtain ⟨p, n, as, t⟩ := r
  cases hr
  by_cases hp : p = package
  · exact bind_of_package_eq hp
  · rw [bind, TypeRef.inPackage] at h
    split at h
    · cases h
      exact absurd rfl hp
    · rename_i hnot
      exact if_neg hnot

lemma interface_package (hc : ofDeclarations c.declarations = .ok c) (hd : d ∈ c.declarations.types)
    (hl : c.link? d = some l) : l.interface.package = d.package :=
  congrArg Prod.fst (DeclarationSet.link?_cases ((link?_eq hc hd).symm.trans hl)).2.1

lemma interface_isTypeParameter (hc : ofDeclarations c.declarations = .ok c) (hd : d ∈ c.declarations.types)
    (hl : c.link? d = some l) : l.interface.isTypeParameter = false :=
  (DeclarationSet.link?_cases ((link?_eq hc hd).symm.trans hl)).2.2.1

lemma directInterfaces_cases (hc : ofDeclarations c.declarations = .ok c) (hd : d ∈ c.declarations.types)
    {withOwn : Bool} (hr : r ∈ c.directInterfaces d withOwn) :
    (∃ l, c.link? d = some l ∧ r = l.interface) ∨ ∃ w ∈ d.writtenRefs, r = c.bind w.1 d.package := by
  rw [directInterfaces, baseInterfaces] at hr
  obtain hr | hr := List.mem_append.1 hr
  · split at hr
    · rename_i l hl
      split at hr
      · exact Or.inl ⟨l, (Option.filter_eq_some_iff.1 hl).1, List.mem_singleton.1 hr⟩
      · cases hr
    · obtain ⟨base, hbase, rfl⟩ := List.mem_map.1 hr
      exact Or.inr ⟨(base, true), List.mem_append_left _ (List.mem_map_of_mem (List.mem_filter.1 hbase).1), rfl⟩
  · obtain ⟨listed, hlisted, rfl⟩ := List.mem_map.1 hr
    rw [listedInterface]
    split
    · rename_i l hl
      have hlink := (Option.filter_eq_some_iff.1 hl).1
      exact Or.inl ⟨l, hlink, bind_of_package_eq (interface_package hc hd hlink)⟩
    · exact Or.inr ⟨(listed, false), List.mem_append_right _ (List.mem_map_of_mem hlisted), rfl⟩

lemma bind_of_mem_directInterfaces (hc : ofDeclarations c.declarations = .ok c) (hd : d ∈ c.declarations.types)
    {withOwn : Bool} (hr : r ∈ c.directInterfaces d withOwn) : c.bind r d.package = r := by
  obtain ⟨l, hl, rfl⟩ | ⟨w, -, rfl⟩ := directInterfaces_cases hc hd hr
  · exact bind_of_package_eq (interface_package hc hd hl)
  · exact bind_bind c w.1 d.package

lemma interface_mem_directInterfaces (hc : ofDeclarations c.declarations = .ok c) (hd : d ∈ c.declarations.types)
    (hl : c.link? d = some l) : l.interface ∈ c.directInterfaces d true := by
  cases hvia : l.viaBase with
  | true =>
    refine List.mem_append_left _ ?_
    rw [baseInterfaces, hl, Option.filter_some, if_pos hvia]
    exact List.mem_singleton_self _
  | false =>
    have hlink := (link?_eq hc hd).symm.trans hl
    rw [DeclarationSet.link?] at hlink
    split at hlink
    · cases hlink
    obtain ⟨w, hw, heq⟩ := Option.map_eq_some_iff.1 hlink
    have hplaceholder : w.1 = l.placeholder := by rw [← heq]
    have hlisted : w.1 ∈ d.interfaces := by
      have hvia' : w.2 = false := by rw [← hvia, ← heq]
      obtain hbase | hinterface := List.mem_append.1 (List.mem_of_find?_eq_some hw)
      · obtain ⟨base, -, rfl⟩ := List.mem_map.1 hbase
        cases hvia'
      · obtain ⟨listed, hlisted, rfl⟩ := List.mem_map.1 hinterface
        exact hlisted
    have hentry : c.listedInterface d w.1 = l.interface := by
      rw [listedInterface, hl, Option.filter_some, if_pos (by simp [hvia, hplaceholder])]
      exact bind_of_package_eq (interface_package hc hd hl)
    rw [← hentry]
    exact List.mem_append_right _ (List.mem_map_of_mem hlisted)

lemma draftParents_cases (hr : r ∈ c.draftParents d l) : c.baseParent? d = some r ∨ r ∈ c.directInterfaces d false := by
  obtain ⟨rest, hrest, hsub, -⟩ := listedParents_cases c d l (c.baseParent? d).toList
  rw [draftParents, hrest] at hr
  obtain hr | hr := List.mem_append.1 hr
  · exact Or.inl (by simpa using hr)
  · exact Or.inr (hsub hr)

/-! References without a package lead nowhere if all declared types have one. -/

lemma find?_eq_none_of_packageless (hnames : c.NamesPackages) (hr : r.package = "") :
    c.declarations.find? r = none := by
  cases hfind : c.declarations.find? r with
  | none => rfl
  | some e =>
    obtain ⟨he, hkey⟩ := DeclarationSet.get?_mem hfind
    exact absurd ((congrArg Prod.fst hkey).trans hr) (hnames e he)

lemma drafted?_eq_none_of_packageless (hc : ofDeclarations c.declarations = .ok c) (hnames : c.NamesPackages)
    (hr : r.package = "") : c.drafted? r.key = none := by
  cases hdrafted : c.drafted? r.key with
  | none => rfl
  | some b =>
    obtain ⟨hd, hkey⟩ := (drafted?_iff hc).1 hdrafted
    have hpackage := interface_package hc hd.declared hd.linked
    exact absurd ((hpackage.symm.trans (congrArg Prod.fst hkey)).trans hr) (hnames _ hd.declared)

lemma walkedParents_of_packageless (hc : ofDeclarations c.declarations = .ok c) (hnames : c.NamesPackages)
    (hr : r.package = "") : c.walkedParents r = [] := by
  rw [walkedParents, drafted?_eq_none_of_packageless hc hnames hr, find?_eq_none_of_packageless hnames hr]
  rfl

lemma drafted?_eq_none_of_isInterface (hc : ofDeclarations c.declarations = .ok c) {e : TypeDeclaration}
    (he : c.declarations.find? r = some e) (hi : e.isInterface) : c.drafted? r.key = none := by
  cases hdrafted : c.drafted? r.key with
  | none => rfl
  | some b =>
    obtain ⟨hd, hkey⟩ := (drafted?_iff hc).1 hdrafted
    rw [DeclarationSet.find?, ← hkey] at he
    have hnot := not_isInterface_of_synthesized hc hd.declared hd.linked hd.synthesized he
    rw [hi] at hnot
    cases hnot

/-! Parents in the closure. -/

lemma Complete.mem_parentsOf_iff (hc : ofDeclarations c.declarations = .ok c) (h : Complete c plans memo) :
    q ∈ c.parentsOf plans r ↔
      (∃ d l, c.IsDrafted d l ∧ r.key = l.interface.key ∧
        ∃ p ∈ c.plannedParents d l r, q = c.bind p l.interface.package) ∨
      ∃ e, c.declarations.find? r = some e ∧ e.isInterface ∧ q ∈ c.declaredParents e r := by
  rw [parentsOf, List.mem_append, or_comm]
  refine or_congr ?_ ?_
  · cases hdrafted : c.drafted? r.key with
    | none =>
      rw [h.find?_eq_none hc hdrafted]
      refine iff_of_false List.not_mem_nil ?_
      rintro ⟨d, l, hd, hkey, -⟩
      rw [(drafted?_iff hc).2 ⟨hd, hkey.symm⟩] at hdrafted
      cases hdrafted
    | some b =>
      obtain ⟨d, l⟩ := b
      obtain ⟨hd, hkey⟩ := (drafted?_iff hc).1 hdrafted
      obtain ⟨plan, hplan⟩ := h.exists_plan d l hd
      obtain ⟨href, -, hparents⟩ := h.eq d l plan hd hplan
      rw [← hkey, h.find?_eq_some hc hd hplan]
      simp only [href, hparents]
      constructor
      · intro hq
        obtain ⟨p, hp, rfl⟩ := List.mem_map.1 hq
        exact ⟨d, l, hd, rfl, _, List.mem_map_of_mem hp, rfl⟩
      · rintro ⟨e, el, he, hkey', p, hp, rfl⟩
        have heq := (drafted?_iff hc).2 ⟨he, hkey'.symm⟩
        rw [(drafted?_iff hc).2 ⟨hd, rfl⟩] at heq
        cases heq
        obtain ⟨p', hp', rfl⟩ := List.mem_map.1 hp
        exact List.mem_map.2 ⟨p', hp', rfl⟩
  · cases hfind : c.declarations.find? r with
    | none => simp
    | some e =>
      cases he : e.isInterface with
      | false =>
        rw [Option.filter_some, if_neg (by simp [he])]
        simp [he]
      | true =>
        rw [Option.filter_some, if_pos he]
        simp [he, declaredParents]

def OnlyInterfaces (c : Conventions) (closure : List TypeRef) : Prop :=
  ∀ r ∈ closure, ∀ e ∈ c.declarations.find? r, e.isInterface

instance (c : Conventions) (closure : List TypeRef) : Decidable (c.OnlyInterfaces closure) :=
  inferInstanceAs (Decidable (∀ r ∈ closure, ∀ e ∈ c.declarations.find? r, e.isInterface))

lemma Complete.walkedParents_mem_closure (hc : ofDeclarations c.declarations = .ok c) (h : Complete c plans memo)
    (hclosure : c.interfaceClosure plans depth d = some closure) (honly : c.OnlyInterfaces closure)
    (hr : r ∈ closure) (hq : q ∈ c.walkedParents r) : q ∈ closure ∨ q.package = "" := by
  rw [or_iff_not_imp_right]
  intro hpackage
  refine parentsOf_subset hclosure hr ((h.mem_parentsOf_iff hc).2 ?_)
  obtain ⟨d', l, hd, hkey, hq⟩ | ⟨e, he, hq⟩ := (mem_walkedParents_iff hc).1 hq
  · exact Or.inl ⟨d', l, hd, hkey, q, hq, (bind_of_package_ne hpackage _).symm⟩
  · exact Or.inr ⟨e, he, honly r hr e he, hq⟩

lemma directInterfaces_subset_closure (hc : ofDeclarations c.declarations = .ok c) (hd : d ∈ c.declarations.types)
    (hclosure : c.interfaceClosure plans depth d = some closure) : c.directInterfaces d false ⊆ closure := by
  intro r hr
  refine (interfaceClosure_sweeps hclosure).entered (List.mem_append_left _ ?_)
  have hmem : r ∈ (c.directInterfaces d false).map (c.bind · d.package) :=
    List.mem_map.2 ⟨r, hr, bind_of_mem_directInterfaces hc hd hr⟩
  rw [ownInterfaces]
  split
  · exact List.mem_append_left _ hmem
  · exact hmem

lemma ancestorInterface_mem_closure (hclosure : c.interfaceClosure plans depth d = some closure) {a : Ancestor}
    (ha : a ∈ c.ancestors d) (hr : r ∈ c.directInterfaces a.declaration true) :
    c.bind (r.substitute a.bindings) a.declaration.package ∈ closure :=
  (interfaceClosure_sweeps hclosure).entered (List.mem_append_right _
    (List.mem_flatMap.2 ⟨a, ha, List.mem_map.2 ⟨r, hr, rfl⟩⟩))

lemma directInterfaces_subset (c : Conventions) (e : TypeDeclaration) :
    c.directInterfaces e false ⊆ c.directInterfaces e true := by
  refine List.append_subset.2 ⟨fun r hr => List.mem_append_left _ ?_, List.subset_append_right _ _⟩
  rw [baseInterfaces] at hr ⊢
  split at hr
  · cases hr
  · exact hr

lemma closure_induction (hc : ofDeclarations c.declarations = .ok c) (hd : d ∈ c.declarations.types)
    (hclosure : c.interfaceClosure plans depth d = some closure) {P : TypeRef → Prop}
    (hnamed : ∀ r ∈ c.directInterfaces d true, P r)
    (hinherited : ∀ a ∈ c.ancestors d, ∀ r ∈ c.directInterfaces a.declaration true,
      P (c.bind (r.substitute a.bindings) a.declaration.package))
    (hparent : ∀ r q, P r → q ∈ c.parentsOf plans r → P q) (hr : r ∈ closure) : P r := by
  have hlisted : ∀ r ∈ (c.directInterfaces d false).map (c.bind · d.package), P r := by
    intro r hr
    obtain ⟨q, hq, rfl⟩ := List.mem_map.1 hr
    rw [bind_of_mem_directInterfaces hc hd hq]
    exact hnamed q (directInterfaces_subset c d hq)
  have hown : ∀ r ∈ c.ownInterfaces plans d, P r := by
    intro r hr
    rw [ownInterfaces] at hr
    split at hr
    · rename_i l hl
      obtain hr | hr := List.mem_append.1 hr
      · exact hlisted r hr
      · have hinterface := interface_mem_directInterfaces hc hd (Option.filter_eq_some_iff.1 hl).1
        exact hparent _ r (hnamed _ hinterface) hr
    · exact hlisted r hr
  obtain ⟨root, hroot, hpath⟩ := (interfaceClosure_sweeps hclosure).reached r hr List.not_mem_nil
  clear hr
  -- along the path from a root, each step to a parent
  induction hpath with
  | refl =>
    obtain hroot | hroot := List.mem_append.1 hroot
    · exact hown root hroot
    · obtain ⟨a, ha, hroot⟩ := List.mem_flatMap.1 hroot
      obtain ⟨q, hq, rfl⟩ := List.mem_map.1 hroot
      exact hinherited a ha q hq
  | tail _ hstep ih => exact hparent _ _ ih hstep

/-- The interface of the base is extended with the arguments that the base has. -/
def FollowsBase (c : Conventions) (d : TypeDeclaration) : Prop :=
  ∀ b ∈ c.draftBase? d, b.2.interface.substitute b.1.bindings = b.2.interface.withArguments b.1.ref.arguments

instance (c : Conventions) (d : TypeDeclaration) : Decidable (c.FollowsBase d) :=
  inferInstanceAs (Decidable (∀ b ∈ c.draftBase? d,
    b.2.interface.substitute b.1.bindings = b.2.interface.withArguments b.1.ref.arguments))

lemma asked_mem_closure (hc : ofDeclarations c.declarations = .ok c) (hd : c.IsDrafted d l)
    (hbase : c.FollowsBase d) (hclosure : c.interfaceClosure plans depth d = some closure) (hr : r ∈ c.asked d l) :
    r ∈ closure ∨ r.package = "" := by
  rw [or_iff_not_imp_right]
  intro hpackage
  obtain hr | hr := List.mem_append.1 hr
  · obtain hr | hr := draftParents_cases hr
    · obtain ⟨⟨a, al⟩, ha, rfl⟩ := Option.map_eq_some_iff.1 hr
      have had := (draftBase?_cases hc hd ha).1
      have hmem := ancestorInterface_mem_closure hclosure (mem_ancestors_of_draftBase? ha).1
        (interface_mem_directInterfaces hc had.declared had.linked)
      rw [hbase (a, al) ha, bind_of_package_ne] at hmem
      · exact hmem
      · exact hpackage
    · exact directInterfaces_subset_closure hc hd.declared hclosure hr
  · obtain ⟨a, ha, hr⟩ := List.mem_flatMap.1 hr
    obtain ⟨p, hp, rfl⟩ := List.mem_map.1 hr
    have hmem := ancestorInterface_mem_closure hclosure ha hp
    rwa [bind_of_package_ne hpackage] at hmem

/-! No parameters among what types extend: binding then leaves all parents as they are, whatever their arguments. -/

def ExtendsTypes (c : Conventions) : Prop :=
  ∀ d ∈ c.declarations.types, ∀ w ∈ d.writtenRefs, w.1.isTypeParameter = false

instance (c : Conventions) : Decidable c.ExtendsTypes :=
  inferInstanceAs (Decidable (∀ d ∈ c.declarations.types, ∀ w ∈ d.writtenRefs, w.1.isTypeParameter = false))

lemma isTypeParameter_of_mem_directInterfaces (hc : ofDeclarations c.declarations = .ok c)
    (hextends : c.ExtendsTypes) (hd : d ∈ c.declarations.types) {withOwn : Bool}
    (hr : r ∈ c.directInterfaces d withOwn) : r.isTypeParameter = false := by
  obtain ⟨l, hl, rfl⟩ | ⟨w, hw, rfl⟩ := directInterfaces_cases hc hd hr
  · exact interface_isTypeParameter hc hd hl
  · rw [bind_isTypeParameter]
    exact hextends d hd w hw

lemma draftParents_bound (hc : ofDeclarations c.declarations = .ok c) (hnames : c.NamesPackages)
    (hextends : c.ExtendsTypes) (hd : c.IsDrafted d l) (hr : r ∈ c.draftParents d l) :
    r.isTypeParameter = false ∧ c.bind r l.interface.package = r := by
  obtain hr | hr := draftParents_cases hr
  · obtain ⟨⟨a, al⟩, ha, rfl⟩ := Option.map_eq_some_iff.1 hr
    have had := (draftBase?_cases hc hd ha).1
    refine ⟨interface_isTypeParameter hc had.declared had.linked, bind_of_package_ne ?_ _⟩
    exact (interface_package hc had.declared had.linked).trans_ne (hnames _ had.declared)
  · rw [interface_package hc hd.declared hd.linked]
    exact ⟨isTypeParameter_of_mem_directInterfaces hc hextends hd.declared hr,
      bind_of_mem_directInterfaces hc hd.declared hr⟩

lemma bind_of_mem_plannedParents (hc : ofDeclarations c.declarations = .ok c) (hnames : c.NamesPackages)
    (hextends : c.ExtendsTypes) (hd : c.IsDrafted d l) (hq : q ∈ c.plannedParents d l r) :
    c.bind q l.interface.package = q := by
  obtain ⟨p, hp, rfl⟩ := List.mem_map.1 hq
  obtain ⟨hparameter, hbound⟩ := draftParents_bound hc hnames hextends hd hp
  exact bind_substitute hparameter hbound _

lemma Complete.mem_parentsOf_iff_walked (hc : ofDeclarations c.declarations = .ok c) (h : Complete c plans memo)
    (hnames : c.NamesPackages) (hextends : c.ExtendsTypes) (honly : ∀ e ∈ c.declarations.find? r, e.isInterface) :
    q ∈ c.parentsOf plans r ↔ q ∈ c.walkedParents r := by
  rw [h.mem_parentsOf_iff hc, mem_walkedParents_iff hc]
  constructor
  · rintro (⟨d, l, hd, hkey, p, hp, rfl⟩ | ⟨e, he, -, hq⟩)
    · rw [bind_of_mem_plannedParents hc hnames hextends hd hp]
      exact Or.inl ⟨d, l, hd, hkey, hp⟩
    · exact Or.inr ⟨e, he, hq⟩
  · rintro (⟨d, l, hd, hkey, hq⟩ | ⟨e, he, hq⟩)
    · exact Or.inl ⟨d, l, hd, hkey, q, hq, (bind_of_mem_plannedParents hc hnames hextends hd hq).symm⟩
    · exact Or.inr ⟨e, he, honly e he, hq⟩

lemma bind_ancestorInterface (hc : ofDeclarations c.declarations = .ok c) (hextends : c.ExtendsTypes)
    (hd : d ∈ c.declarations.types) {a : Ancestor} (ha : a ∈ c.ancestors d)
    (hr : r ∈ c.directInterfaces a.declaration true) :
    c.bind (r.substitute a.bindings) a.declaration.package = r.substitute a.bindings := by
  have had := mem_types_of_mem_ancestors hc hd ha
  exact bind_substitute (isTypeParameter_of_mem_directInterfaces hc hextends had hr)
    (bind_of_mem_directInterfaces hc had hr) _

lemma ownInterfaces_eq (hc : ofDeclarations c.declarations = .ok c) (hd : c.IsDrafted d l) :
    c.ownInterfaces plans d = c.directInterfaces d false := by
  have hbound : (c.directInterfaces d false).map (c.bind · d.package) = c.directInterfaces d false := by
    refine (List.map_congr_left fun r hr => ?_).trans (List.map_id _)
    exact bind_of_mem_directInterfaces hc hd.declared hr
  have hnot : (l.viaBase && l.handAuthored) = false := by
    have hsynthesized := hd.synthesized
    rw [InterfaceLink.synthesized, Bool.not_eq_true'] at hsynthesized
    rw [hsynthesized, Bool.and_false]
  rw [ownInterfaces, hd.linked, Option.filter_some, if_neg (by rw [hnot]; decide), hbound]

lemma root_cases (hc : ofDeclarations c.declarations = .ok c) (hextends : c.ExtendsTypes) (hd : c.IsDrafted d l)
    (hr : r ∈ c.ownInterfaces plans d ++ (c.ancestors d).flatMap c.inheritedInterfaces) :
    r = l.interface ∨ r ∈ c.asked d l := by
  rw [ownInterfaces_eq hc hd] at hr
  obtain hr | hr := List.mem_append.1 hr
  · rw [or_iff_not_imp_left]
    intro hown
    obtain ⟨rest, hrest, -, hall⟩ := listedParents_cases c d l (c.baseParent? d).toList
    refine List.mem_append_left _ ?_
    rw [draftParents, hrest]
    exact hall r hr hown
  · obtain ⟨a, ha, hr⟩ := List.mem_flatMap.1 hr
    obtain ⟨p, hp, rfl⟩ := List.mem_map.1 hr
    rw [bind_ancestorInterface hc hextends hd.declared ha hp]
    exact Or.inr (List.mem_append_right _ (List.mem_flatMap.2 ⟨a, ha, List.mem_map_of_mem hp⟩))

lemma Complete.closure_cases (hc : ofDeclarations c.declarations = .ok c) (h : Complete c plans memo)
    (hnames : c.NamesPackages) (hextends : c.ExtendsTypes) (hd : c.IsDrafted d l)
    (hclosure : c.interfaceClosure plans depth d = some closure) (honly : c.OnlyInterfaces closure)
    (hown : ∀ r ∈ closure, r.key = l.interface.key → c.parentsOf plans r ⊆ c.draftParents d l) (hr : r ∈ closure) :
    r.key = l.interface.key ∨
      ∃ q ∈ c.asked d l, q ∈ closure ∧ c.Reaches q r := by
  have hsweeps := interfaceClosure_sweeps hclosure
  obtain ⟨root, hroot, hpath⟩ := hsweeps.reached r hr List.not_mem_nil
  clear hr
  suffices hall : r ∈ closure ∧ (r.key = l.interface.key ∨
      ∃ q ∈ c.asked d l, q ∈ closure ∧ c.Reaches q r) from hall.2
  induction hpath with
  | refl =>
    have hmem := hsweeps.entered hroot
    refine ⟨hmem, ?_⟩
    obtain heq | hasked := root_cases hc hextends hd hroot
    · exact Or.inl (congrArg TypeRef.key heq)
    · exact Or.inr ⟨root, hasked, hmem, .refl⟩
  | @tail x y _ hstep ih =>
    obtain ⟨hx, hkey | ⟨q, hq, hqmem, hqx⟩⟩ := ih
    · have hy := parentsOf_subset hclosure hx hstep
      exact ⟨hy, Or.inr ⟨y, List.mem_append_left _ (hown x hx hkey hstep), hy, .refl⟩⟩
    · exact ⟨parentsOf_subset hclosure hx hstep, Or.inr ⟨q, hq, hqmem,
        hqx.tail ((h.mem_parentsOf_iff_walked hc hnames hextends (honly x hx)).1 hstep)⟩⟩

lemma Complete.reaches_of_walked (hc : ofDeclarations c.declarations = .ok c) (h : Complete c plans memo)
    (hnames : c.NamesPackages) (hextends : c.ExtendsTypes)
    (hclosure : c.interfaceClosure plans depth d = some closure) (honly : c.OnlyInterfaces closure) (hq : q ∈ closure)
    (hqr : c.Reaches q r) :
    r ∈ closure ∧ Relation.ReflTransGen (fun x y => y ∈ c.parentsOf plans x) q r := by
  induction hqr with
  | refl => exact ⟨hq, .refl⟩
  | @tail x y _ hstep ih =>
    have hparent := (h.mem_parentsOf_iff_walked hc hnames hextends (honly x ih.1)).2 hstep
    exact ⟨parentsOf_subset hclosure ih.1 hparent, ih.2.tail hparent⟩

end Conventions

end Wiring
