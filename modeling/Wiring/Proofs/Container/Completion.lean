import Wiring.Proofs.Container.Initialization

/-!
The completion hook of an object that generated initializers set up. Above the initializer in force every call of the
hook stands under a guard that does not hold there, so what is left is one call behind all assignments.
-/

namespace Wiring

open Container

namespace Container.Effect

variable {t : ClassTable} {self owner : ClassHead} {values : List (String × Value)}
  {callBase : ClassHead → Initializer → List (String × Value) → List Effect}

lemma flatMap_assign (binding : String → Binding) {targets parameters : List String} {vs : List Value}
    (h : parameters.mapM (Assoc.find? · values) = some vs) :
    (((targets.zip parameters).map fun a => Statement.assign a.1 a.2).map (·.step binding)).flatMap
        (ofStep t self owner values callBase) = setAll (targets.zip vs) := by
  have hall := Assoc.mapM_eq_some_iff.1 h
  clear h
  induction hall generalizing targets with
  | nil => simp [setAll]
  | @cons parameter v _ _ hp _ ih =>
    cases targets with
    | nil => simp [setAll]
    | cons target targets =>
      have hfirst : ofStep t self owner values callBase ((Statement.assign target parameter).step binding) =
          [.set target v] := by rw [Statement.step, ofStep, withSlot, hp]
      simp only [List.zip_cons_cons, List.map_cons, List.flatMap_cons, ih, hfirst]
      rfl

end Container.Effect

namespace Container.Resolving

variable {t : ClassTable} {ask : Ask} {other : Value → List Value → Resolving Unit} {object : Nat} {c : ClassHead}
  {type : TypeExpr} {names : List String} {pairs : List (String × Value)} {hook : String} {w w' : World}

lemma Fresh.performAll_eq (h : Fresh t type c names w object w') (hsettable : ∀ p ∈ pairs, t.hasProperty c p.1 = false)
    {hooked : Bool} (hhook : hooked → t.hasHook c hook) (hname : hook ∉ "__init__" :: pairs.map Prod.fst) :
    performAll t ask other object (Effect.setAll pairs ++ if hooked then [.hook [hook]] else []) w' = some (.ok (),
      if hooked then (w'.setAttributes object pairs).note (c.text ++ "." ++ hook)
      else w'.setAttributes object pairs) := by
  obtain ⟨plain, hobject⟩ := h.getElem?
  rw [List.mem_cons, not_or] at hname
  have hclass : ∀ k, w'.classOf? (.object object) = some k → ∀ p ∈ pairs, t.hasProperty k p.1 = false := by
    intro k hk
    rw [World.classOf?, hobject, Option.bind_some, h.head?] at hk
    cases hk
    exact hsettable
  rw [performAll_setAll _ hclass]
  cases hooked with
  | false => rfl
  | true =>
    have hgiven := World.getElem?_setAttributes w' object pairs
    rw [hobject, Option.map_some] at hgiven
    have hattribute : Assoc.find? hook (Assoc.ofPairs pairs) = none := by
      rw [Assoc.find?_ofPairs, Assoc.find?_eq_none_iff, List.map_reverse, List.mem_reverse]
      exact hname.2
    have hrun : runHook t other object [hook] _ = _ :=
      runHook_of_hasHook hgiven h.head? hattribute hname.1 (hhook rfl)
    rw [if_pos rfl, if_pos rfl, performAll, performOne, bind_of_ok hrun]
    rfl

end Container.Resolving

namespace Conventions

variable {set : DeclarationSet} {c : Conventions} {s : Settings} {classes : TypeKey → ClassHead}
  {t : ClassTable} {d e self : TypeDeclaration} {i : Initializer} {n : Nat} {arguments : List Value}

/-! What a plan says about the hook. -/

def hasHook (c : Conventions) (s : Settings) (d : TypeDeclaration) : Bool :=
  (c.lineage d).any (·.declaresMethod s.completionHook)

lemma completionHook_eq (c : Conventions) (s : Settings) (d : TypeDeclaration) :
    (c.initializerPlan s d).completionHook = if c.hasHook s d then some s.completionHook else none := by
  rw [hasHook, lineage, List.any_cons, superclasses, List.any_map]
  rfl

lemma guardCompletion_eq (c : Conventions) (s : Settings) (d : TypeDeclaration) :
    (c.initializerPlan s d).guardCompletion = (c.hasHook s d && c.isExtended s d) := by
  rw [hasHook, lineage, List.any_cons, superclasses, List.any_map]
  rfl

lemma hookStatements_eq (hhook : s.completionHook ≠ "") (owner : String) :
    InitializerUnit.hookStatements (c.initializerPlan s d) owner =
      if c.hasHook s d then
        if c.isExtended s d then [.runHookUnlessDerived owner s.completionHook] else [.runHook s.completionHook]
      else [] := by
  rw [InitializerUnit.hookStatements, completionHook_eq, guardCompletion_eq]
  cases c.hasHook s d with
  | false => rfl
  | true =>
    rw [if_pos rfl, Option.filter_some, if_pos (by simpa using hhook)]
    rfl

lemma isExtended_of_mem_superclasses (hc : ofDeclarations set = .ok c) (he : e ∈ set.types)
    (hi : c.isInitialized s e) {f : TypeDeclaration} (hf : f ∈ c.superclasses e) : c.isExtended s f := by
  obtain ⟨a, ha, rfl⟩ := List.mem_map.1 hf
  have hmem : e ∈ c.initializedTypes s := List.mem_filter.2 ⟨(ofDeclarations_cases hc).1 ▸ he, hi⟩
  exact List.any_eq_true.2 ⟨e, hmem, List.any_eq_true.2 ⟨a, ha, by simp⟩⟩

def hookEffects (c : Conventions) (s : Settings) (t : ClassTable) (classes : TypeKey → ClassHead) (self : ClassHead)
    (d : TypeDeclaration) : List Effect :=
  if c.hasHook s d ∧ (c.isExtended s d → Effect.sharesInitializer t self (classes d.key)) then
    [.hook [s.completionHook]]
  else []

lemma flatMap_hookStatements (hhook : s.completionHook ≠ "") {shown : String} {binding : String → Binding}
    {base : ClassHead}
    (hmeanings : ∀ m ∈ (InitializerUnit.hookStatements (c.initializerPlan s d) shown).flatMap
      (·.meanings (classes d.key) base), binding m.1 = m.2)
    (head owner : ClassHead) (values : List (String × Value))
    (callBase : ClassHead → Initializer → List (String × Value) → List Effect) :
    ((InitializerUnit.hookStatements (c.initializerPlan s d) shown).map (·.step binding)).flatMap
        (Effect.ofStep t head owner values callBase) = c.hookEffects s t classes head d := by
  rw [hookStatements_eq hhook] at hmeanings ⊢
  rw [hookEffects]
  cases hh : c.hasHook s d with
  | false => simp
  | true =>
    rw [hh] at hmeanings
    cases hx : c.isExtended s d with
    | false => simp [Statement.step, Effect.ofStep]
    | true =>
      rw [hx] at hmeanings
      have hasked : binding "type" = .class (.builtin "type") := hmeanings ("type", _) (by simp [Statement.meanings])
      have hshown : binding shown = .class (classes d.key) := hmeanings (shown, _) (by simp [Statement.meanings])
      simp [Statement.step, Effect.ofStep, Effect.guardedHook, hasked, hshown]

/-! One initializer, and from it all those on a chain. -/

lemma ofInitializer_generated (hi : Generated c s classes d i) (hhook : s.completionHook ≠ "") (head : ClassHead)
    (hl : arguments.length = (c.requirements s d).length)
    (habove : ∀ base, (c.initializerPlan s d).base = some base → ∃ e j,
      t.initializer? (classes base.key) = some (classes e.key, j) ∧ Generated c s classes e j ∧
      (arguments.drop (s.dependencies d).length).length = j.slots.length ∧
      Effect.ofInitializer t head n (classes e.key) j
          ((c.parameterNames s e).zip (arguments.drop (s.dependencies d).length)) =
        Effect.setAll (((c.inheritedRequirements s d).map attributeOf).zip
          (arguments.drop (s.dependencies d).length))) :
    Effect.ofInitializer t head (n + 1) (classes d.key) i ((c.parameterNames s d).zip arguments) =
      Effect.setAll ((c.attributes s d).zip arguments) ++ c.hookEffects s t classes head d := by
  obtain ⟨shown, -, hbody⟩ := InitializerUnit.exists_body (c.initializerPlan s d)
  obtain ⟨binding, hlinked, hmeanings⟩ := hi.body
  rw [meanings, hbody, List.flatMap_append] at hmeanings
  have hlength : (c.parameterNames s d).length = arguments.length := by rw [length_parameterNames, hl]
  have hown : InitializerUnit.assignments (c.initializerPlan s d) =
      ((((s.dependencies d).map (d, ·)).map attributeOf).zip
        ((c.parameterNames s d).take (s.dependencies d).length)).map fun a => .assign a.1 a.2 := by
    rw [InitializerUnit.assignments, assignments_eq]
    simp only [List.zip_map_left, List.map_map]
    rfl
  have hsplit : (c.attributes s d).zip arguments =
      (((s.dependencies d).map (d, ·)).map attributeOf).zip (arguments.take (s.dependencies d).length) ++
        ((c.inheritedRequirements s d).map attributeOf).zip (arguments.drop (s.dependencies d).length) := by
    rw [← List.zip_append, List.take_append_drop, ← List.map_append, ← requirements_eq]
    · rfl
    · rw [requirements_eq, List.length_append, List.length_map] at hl
      simp only [List.length_map, List.length_take]
      omega
  have hhooks : _ = c.hookEffects s t classes head d := flatMap_hookStatements hhook
    (fun m hm => hmeanings m (List.mem_append_right _ hm)) head (classes d.key) ((c.parameterNames s d).zip arguments)
    (Effect.ofInitializer t head n)
  rw [Effect.ofInitializer, hlinked, hbody, List.map_append, List.map_append, List.flatMap_append,
    List.flatMap_append, hown, hhooks, hsplit, Effect.setAll_append,
    Effect.flatMap_assign binding (Assoc.mapM_find?_zip_take (parameterNames_nodup c s d) hlength _)]
  congr 2
  cases hb : (c.initializerPlan s d).base with
  | none =>
    have hnone : c.inheritedRequirements s d = [] := requirementsOf_eq_nil (isInitialized_of_base_eq_none hb)
    rw [hnone]
    rfl
  | some base =>
    obtain ⟨e, j, ht, hj, hgiven, heffects⟩ := habove base hb
    have hnodup : (j.slots.map (·.name)).Nodup := hj.names ▸ parameterNames_nodup c s e
    have hvalues : (c.initializerPlan s d).forwarded.mapM (Assoc.find? · ((c.parameterNames s d).zip arguments)) =
        some (arguments.drop (s.dependencies d).length) := by
      rw [forwarded_eq]
      exact Assoc.mapM_find?_zip_drop (parameterNames_nodup c s d) hlength _
    have hshown : binding shown = .class (classes base.key) :=
      hmeanings (shown, _) (List.mem_append_left _ (by simp [hb, Statement.meanings]))
    simp only [Option.toList_some, List.map_cons, List.map_nil, List.flatMap_cons, List.flatMap_nil, List.append_nil,
      Statement.step, hshown, Effect.ofStep, ht, Assoc.filterMap_of_mapM_eq_some hvalues,
      Initializer.bind_placed hj.kinds hnodup hgiven, hj.names]
    exact heffects

lemma lineage_effective (hc : ofDeclarations set = .ok c) (hd : d ∈ set.types) (he : c.effective? s d = some e) :
    ∃ pre, c.lineage d = pre ++ c.lineage e ∧ ∀ f ∈ pre, c.isInitialized s f = false := by
  obtain ⟨-, pre, post, hsplit, hpre⟩ := List.find?_eq_some_iff_append.1 he
  have hpost : post = c.superclasses e := lineage_suffix hc hd hsplit
  exact ⟨pre, by rw [hsplit, hpost, lineage], fun f hf => by simpa using hpre f hf⟩

lemma requirements_effective (hc : ofDeclarations set = .ok c) (hd : d ∈ set.types)
    (he : c.effective? s d = some e) : c.requirements s d = c.requirements s e := by
  obtain ⟨pre, hlineage, hpre⟩ := lineage_effective hc hd he
  rw [requirements, hlineage, requirementsOf, List.flatMap_append, ← requirementsOf, requirementsOf_eq_nil hpre]
  rfl

lemma exists_eq_succ (hi : c.isInitialized s e) (hn : ((c.lineage e).filter (c.isInitialized s)).length ≤ n) :
    ∃ m, n = m + 1 ∧ ((c.superclasses e).filter (c.isInitialized s)).length ≤ m := by
  rw [lineage, List.filter_cons_of_pos hi, List.length_cons] at hn
  obtain ⟨m, rfl⟩ := Nat.exists_eq_add_of_le' (Nat.le_trans (Nat.le_add_left 1 _) hn)
  exact ⟨m, rfl, Nat.le_of_succ_le_succ hn⟩

lemma ofInitializer_chain (ht : Mirrors set c s classes t) (hc : ofDeclarations set = .ok c) (hd : d ∈ set.types)
    (he : c.effective? s d = some e) (hi : Generated c s classes e i) (hhook : s.completionHook ≠ "")
    (head : ClassHead)
    (hclear : ∀ f ∈ c.lineage e, c.isInitialized s f → (InitializerUnit.ofPlan (c.initializerPlan s f)).Clear)
    (hquiet : ∀ f ∈ c.superclasses e, c.isInitialized s f → c.hookEffects s t classes head f = [])
    (hn : ((c.lineage e).filter (c.isInitialized s)).length ≤ n)
    (hl : arguments.length = (c.requirements s e).length) :
    Effect.ofInitializer t head n (classes e.key) i ((c.parameterNames s e).zip arguments) =
      Effect.setAll ((c.attributes s e).zip arguments) ++ c.hookEffects s t classes head e := by
  induction d, hd using lineage_induction hc generalizing e i n arguments with
  | root d hd hb =>
    have habove := superclasses_of_root hc hd hb
    rw [effective?, lineage, habove, List.find?_singleton] at he
    split at he
    · rename_i hinit
      cases he
      obtain ⟨m, rfl, -⟩ := exists_eq_succ hinit hn
      refine ofInitializer_generated hi hhook head hl fun base hbase => ?_
      rw [base_eq, habove] at hbase
      cases hbase
    · cases he
  | derived d hd r b hb hbs ih =>
    have habove := superclasses_of_derived hc hd hb
    rw [effective?, lineage, habove, List.find?_cons] at he
    cases hinit : c.isInitialized s d with
    | false =>
      rw [hinit] at he
      exact ih he hi hclear hquiet hn hl
    | true =>
      rw [hinit] at he
      cases he
      obtain ⟨m, rfl, hm⟩ := exists_eq_succ hinit hn
      have hinherited : c.inheritedRequirements s d = c.requirements s b := by
        rw [inheritedRequirements, habove, requirements]
      refine ofInitializer_generated hi hhook head hl fun base hbase => ?_
      obtain ⟨hkey, e', he'⟩ := exists_effective_of_base hc hd hb hbase
      obtain ⟨x, j, hj, hlinked⟩ := ht.initialized b hbs e' he'
      obtain ⟨pre, hlineage, hpre⟩ := lineage_effective hc hbs he'
      have hie' : c.isInitialized s e' := List.find?_some he'
      have hmem : ∀ f ∈ c.lineage e', f ∈ c.superclasses d := by
        intro f hf
        rw [habove, hlineage]
        exact List.mem_append_right pre hf
      have hclear' : ∀ f ∈ c.lineage e', c.isInitialized s f →
          (InitializerUnit.ofPlan (c.initializerPlan s f)).Clear :=
        fun f hf => hclear f (List.mem_cons_of_mem d (hmem f hf))
      have hgenerated := hlinked.generated (hclear' e' List.mem_cons_self hie')
      have hgiven : (arguments.drop (s.dependencies d).length).length = (c.requirements s e').length := by
        rw [← requirements_effective hc hbs he', ← hinherited, List.length_drop, hl, requirements_eq,
          List.length_append, List.length_map]
        omega
      have hdepth : ((c.lineage e').filter (c.isInitialized s)).length ≤ m := by
        rw [habove, hlineage, List.filter_append, List.length_append] at hm
        omega
      refine ⟨e', _, hkey ▸ hj, hgenerated, by rw [hgiven, hgenerated.length_slots], ?_⟩
      have heffects := ih he' hgenerated hclear'
        (fun f hf => hquiet f (hmem f (List.mem_cons_of_mem e' hf))) hdepth hgiven
      rw [heffects, hquiet e' (hmem e' List.mem_cons_self) hie', List.append_nil, hinherited, attributes,
        requirements_effective hc hbs he']

lemma effective?_self (hi : c.isInitialized s d) : c.effective? s d = some d := by
  rw [effective?, lineage, List.find?_cons_of_pos hi]

lemma effective?_cases (hc : ofDeclarations set = .ok c) (hd : d ∈ set.types) (he : c.effective? s d = some e) :
    e ∈ set.types ∧ c.isInitialized s e :=
  ⟨mem_types_of_mem_lineage hc hd (List.mem_of_find?_eq_some he), List.find?_some he⟩

lemma hookEffects_eq_nil (ht : Mirrors set c s classes t) (hc : ofDeclarations set = .ok c)
    (hinj : Function.Injective classes) (hd : d ∈ set.types) (he : c.effective? s d = some e)
    {f : TypeDeclaration} (hf : f ∈ c.superclasses e) (hi : c.isInitialized s f) :
    c.hookEffects s t classes (classes d.key) f = [] := by
  obtain ⟨hes, hie⟩ := effective?_cases hc hd he
  have hfs : f ∈ set.types := mem_types_of_mem_lineage hc hes (List.mem_cons_of_mem e hf)
  obtain ⟨x, i, hself, -⟩ := ht.initialized d hd e he
  obtain ⟨y, j, habove, -⟩ := ht.initialized f hfs f (effective?_self hi)
  have hne : e.key ≠ f.key := by
    intro hkey
    have hnodup := lineage_nodup hc hes
    rw [lineage, List.nodup_cons] at hnodup
    exact hnodup.1 (DeclarationSet.eq_of_key_eq hes hfs hkey ▸ hf)
  have hother : Effect.sharesInitializer t (classes d.key) (classes f.key) = false := by
    rw [Effect.sharesInitializer, hself, habove]
    simpa using fun h => hne (hinj h)
  have hextended : c.isExtended s f := isExtended_of_mem_superclasses hc hes hie hf
  rw [hookEffects, if_neg]
  rintro ⟨-, hshares⟩
  rw [hother] at hshares
  exact Bool.false_ne_true (hshares hextended)

lemma length_initialized_le (ht : Mirrors set c s classes t) (hc : ofDeclarations set = .ok c)
    (hinj : Function.Injective classes) (hd : d ∈ set.types) :
    ((c.lineage d).filter (c.isInitialized s)).length ≤ t.length := by
  have hmem : ∀ f ∈ (c.lineage d).filter (c.isInitialized s), classes f.key ∈ t.map (·.head) := by
    intro f hf
    obtain ⟨hf, hi⟩ := List.mem_filter.1 hf
    obtain ⟨x, i, hfound, -⟩ := ht.initialized f (mem_types_of_mem_lineage hc hd hf) f (effective?_self hi)
    obtain ⟨k, hk, hhead⟩ := List.exists_of_findSome?_eq_some hfound
    obtain ⟨j, -, hpair⟩ := Option.map_eq_some_iff.1 hhead
    obtain ⟨a, -, ha⟩ := List.mem_filterMap.1 hk
    have hkt : k ∈ t := List.mem_of_find?_eq_some ha
    exact (Prod.mk.inj hpair).1 ▸ List.mem_map_of_mem hkt
  have hnodup : (((c.lineage d).filter (c.isInitialized s)).map (classes ·.key)).Nodup := by
    refine List.Nodup.map_on (fun f hf g hg h => ?_) ((lineage_nodup hc hd).filter _)
    have hfs := mem_types_of_mem_lineage hc hd (List.mem_filter.1 hf).1
    have hgs := mem_types_of_mem_lineage hc hd (List.mem_filter.1 hg).1
    exact DeclarationSet.eq_of_key_eq hfs hgs (hinj h)
  have hsub : (((c.lineage d).filter (c.isInitialized s)).map (classes ·.key)) ⊆ t.map (·.head) := by
    intro head hhead
    obtain ⟨f, hf, rfl⟩ := List.mem_map.1 hhead
    exact hmem f hf
  have hle := (hnodup.subperm hsub).length_le
  rwa [List.length_map, List.length_map] at hle

lemma attributes_effective (hc : ofDeclarations set = .ok c) (hd : d ∈ set.types) (he : c.effective? s d = some e) :
    c.attributes s d = c.attributes s e := by
  rw [attributes, requirements_effective hc hd he, attributes]

lemma ofClass_eq (ht : Mirrors set c s classes t) (hc : ofDeclarations set = .ok c) (hinj : Function.Injective classes)
    (hd : d ∈ set.types) (he : c.effective? s d = some e)
    (hi : t.initializer? (classes d.key) = some (classes e.key, i)) (hgenerated : Generated c s classes e i)
    (hhook : s.completionHook ≠ "")
    (hclear : ∀ f ∈ c.lineage e, c.isInitialized s f → (InitializerUnit.ofPlan (c.initializerPlan s f)).Clear)
    (hl : arguments.length = (c.requirements s e).length) :
    Effect.ofClass t (classes d.key) (classes e.key) i ((c.parameterNames s e).zip arguments) =
      Effect.setAll ((c.attributes s d).zip arguments) ++
        if c.hasHook s e then [.hook [s.completionHook]] else [] := by
  obtain ⟨hes, hie⟩ := effective?_cases hc hd he
  have hown : Effect.sharesInitializer t (classes d.key) (classes e.key) = true := by
    obtain ⟨x, j, hj, -⟩ := ht.initialized e hes e (effective?_self hie)
    rw [Effect.sharesInitializer, hi, hj]
    simp
  have hlast : c.hookEffects s t classes (classes d.key) e =
      if c.hasHook s e then [.hook [s.completionHook]] else [] := by
    rw [hookEffects, hown]
    simp
  rw [Effect.ofClass, attributes_effective hc hd he, ← hlast]
  exact ofInitializer_chain ht hc hd he hgenerated hhook (classes d.key) hclear
    (fun f hf hif => hookEffects_eq_nil ht hc hinj hd he hf hif)
    (Nat.le_succ_of_le (length_initialized_le ht hc hinj hes)) hl

lemma hasHook_of_effective (ht : Mirrors set c s classes t) (hc : ofDeclarations set = .ok c) (hd : d ∈ set.types)
    (he : c.effective? s d = some e) (hhook : c.hasHook s e) : t.hasHook (classes d.key) s.completionHook := by
  obtain ⟨pre, hlineage, -⟩ := lineage_effective hc hd he
  refine ht.hook d hd ?_
  rw [hlineage, List.any_append, ← hasHook, hhook, Bool.or_true]

/-- Where no body reads a name that a parameter hides, an object gets all dependencies of its lineage assigned and then
the hook is called once, if the type of the initializer in force has it or inherits it. The call reaches the method of
the class where neither an attribute nor the initializer itself has its name. -/
theorem hook_runs_last (hc : ofDeclarations set = .ok c) (hd : d ∈ set.types) (hhook : s.completionHook ≠ "")
    (he : c.effective? s d = some e) (hinj : Function.Injective classes) (ht : Mirrors set c s classes t)
    (hclear : ∀ f ∈ c.lineage e, c.isInitialized s f → (InitializerUnit.ofPlan (c.initializerPlan s f)).Clear)
    (hl : arguments.length = (c.initializerPlan s e).parameters.length) :
    ∃ i, t.initializer? (classes d.key) = some (classes e.key, i) ∧
      i.bind [] ((c.parameterNames s e).zip arguments) = .ok ((c.parameterNames s e).zip arguments) ∧
      Effect.ofClass t (classes d.key) (classes e.key) i ((c.parameterNames s e).zip arguments) =
        ((c.attributes s d).zip arguments).map (fun a => .set a.1 a.2) ++
          (if (c.lineage e).any (·.declaresMethod s.completionHook) then [.hook [s.completionHook]] else []) ∧
      (s.completionHook ∉ "__init__" :: c.attributes s d →
        ∀ ask type w object w', Resolving.Fresh t type (classes d.key) (c.parameterNames s e) w object w' →
          Resolving.instantiate t ask type ((c.parameterNames s e).zip arguments) w = some (.ok (.object object),
            if (c.lineage e).any (·.declaresMethod s.completionHook) then
              (w'.setAttributes object ((c.attributes s d).zip arguments)).note
                ((classes d.key).text ++ "." ++ s.completionHook)
            else w'.setAttributes object ((c.attributes s d).zip arguments))) := by
  obtain ⟨hes, hie⟩ := effective?_cases hc hd he
  obtain ⟨x, f, hself, hlinked⟩ := ht.initialized d hd e he
  have hi : Generated c s classes e (Linking.initializerOf x f) := hlinked.generated (hclear e List.mem_cons_self hie)
  rw [length_parameters] at hl
  have hbind : (Linking.initializerOf x f).bind [] ((c.parameterNames s e).zip arguments) =
      .ok ((c.parameterNames s e).zip arguments) := by
    rw [← hi.names]
    exact Initializer.bind_named hi.kinds (hi.names ▸ parameterNames_nodup c s e) (by rw [hl, hi.length_slots])
  have heffects := ofClass_eq ht hc hinj hd he hself hi hhook hclear hl
  refine ⟨_, hself, hbind, heffects, fun hname ask type w object w' hfresh => ?_⟩
  have hfst : ((c.parameterNames s e).zip arguments).map Prod.fst = c.parameterNames s e :=
    List.map_fst_zip (Nat.le_of_eq (by rw [length_parameterNames, hl]))
  have hsettable : ∀ p ∈ (c.attributes s d).zip arguments, t.hasProperty (classes d.key) p.1 = false :=
    fun p hp => ht.settable d hd p.1 (List.of_mem_zip hp).1
  have hkeys : s.completionHook ∉ "__init__" :: ((c.attributes s d).zip arguments).map Prod.fst := by
    rwa [List.map_fst_zip]
    rw [length_attributes, hl, requirements_effective hc hd he]
  rw [Resolving.Fresh.instantiate_eq (hfst.symm ▸ hfresh) hself hbind, heffects]
  exact Resolving.bind_of_ok (hfresh.performAll_eq hsettable (hasHook_of_effective ht hc hd he) hkeys)

end Conventions

/-! Reports that say when they are complete. The initializer of a summary is extended by that of a digest. -/

namespace Reports

open Documents (named dependency)

def report : TypeDeclaration where
  ref := named "Report"
  members := [dependency "Report" "_printer" "Printer",
    { name := "on_initialized", type := named "None", kind := .method }]

def summary : TypeDeclaration where
  ref := named "Summary"
  base := some (named "Report")
  members := [dependency "Summary" "_clock" "Clock"]

def digest : TypeDeclaration where
  ref := named "Digest"
  base := some (named "Summary")
  annotations := [{ name := "Transient" }]

def declarations : DeclarationSet where
  types := [report, summary, digest]
  keys_nodup := by decide

def conventions : Conventions :=
  let ancestors := [summary, report].map fun d => ({ declaration := d, ref := d.ref } : Ancestor)
  { declarations := declarations
    links := []
    chains := [(report.key, []), (summary.key, ancestors.drop 1), (digest.key, ancestors)] }

def classes (k : TypeKey) : ClassHead where
  module := k.1
  qualifiedName := k.2
  name := k.2

lemma classes_injective : Function.Injective classes :=
  fun _ _ h => Prod.ext (congrArg ClassHead.module h) (congrArg ClassHead.name h)

lemma ofDeclarations_eq : Conventions.ofDeclarations declarations = .ok conventions := by
  cbv

def execution : Execution where
  globals := declarations.types.map fun d => (d.name, .type (.bare (classes d.key)))

lemma mirrors : Conventions.Mirrors declarations conventions {} classes (conventions.classTable {} classes execution) :=
  Conventions.mirrors_classTable ofDeclarations_eq classes_injective (by decide +kernel)

theorem hook_runs_last_summary :
    let t := conventions.classTable {} classes execution
    let given : List (String × Value) := [("clock", .object 0), ("printer", .object 1)]
    let w : World := { objects := ["Clock", "Printer"].map fun name => { type := .bare (classes ("app", name)) } }
    (conventions.initializerPlan {} summary).guardCompletion = true ∧
      ∃ i, t.initializer? (classes summary.key) = some (classes summary.key, i) ∧ i.bind [] given = .ok given ∧
        Effect.ofClass t (classes summary.key) (classes summary.key) i given =
          [.set "_clock" (.object 0), .set "_printer" (.object 1), .hook ["on_initialized"]] ∧
        ∀ ask, Resolving.instantiate t ask (.bare (classes summary.key)) given w = some (.ok (.object 2), { w with
          objects := w.objects ++ [{
            type := .bare (classes summary.key)
            attributes := [("_clock", .object 0), ("_printer", .object 1)] }]
          constructed := ["app.Summary.on_initialized"] }) := by
  intro t given w
  have hnames : conventions.parameterNames {} summary = ["clock", "printer"] := by decide
  have hattributes : conventions.attributes {} summary = ["_clock", "_printer"] := by decide
  have hmethod : (conventions.lineage summary).any (·.declaresMethod ({} : Settings).completionHook) = true := by
    decide
  have hlength : ([.object 0, .object 1] : List Value).length =
      (conventions.initializerPlan {} summary).parameters.length := by decide
  have hclear : ∀ f ∈ conventions.lineage summary, conventions.isInitialized {} f →
      (InitializerUnit.ofPlan (conventions.initializerPlan {} f)).Clear := by
    unfold InitializerUnit.Clear InitializerUnit.Hygienic
    decide
  obtain ⟨i, hself, hbind, heffects, hperform⟩ := Conventions.hook_runs_last (d := summary) ofDeclarations_eq
    (by decide) (by decide) (by decide) classes_injective mirrors hclear hlength
  rw [hnames] at hbind heffects
  rw [hattributes, hmethod] at heffects
  refine ⟨by decide, i, hself, hbind, heffects, fun ask => ?_⟩
  rw [hnames, hattributes, hmethod] at hperform
  exact hperform (by decide) ask (.bare (classes summary.key)) w 2 _ ⟨.inl rfl, by decide, rfl⟩

end Reports

/-! An audit is a report that depends on a ledger by the name of `Report`, an alert one that depends on it by the name
of the hook. -/

namespace Alerts

open Documents (named dependency)
open Reports (classes classes_injective)

def ledger : TypeDeclaration where
  ref := named "Ledger"
  annotations := [{ name := "Transient" }]

def report : TypeDeclaration where
  ref := named "Report"
  members := [{ name := "on_initialized", type := named "None", kind := .method }]
  annotations := [{ name := "Transient" }]

def audit : TypeDeclaration where
  ref := named "Audit"
  base := some (named "Report")
  members := [dependency "Audit" "Report" "Ledger"]
  annotations := [{ name := "Transient" }]

def alert : TypeDeclaration where
  ref := named "Alert"
  base := some (named "Report")
  members := [dependency "Alert" "on_initialized" "Ledger"]
  annotations := [{ name := "Transient" }]

def declarations : DeclarationSet where
  types := [ledger, report, audit, alert]
  keys_nodup := by decide

def conventions : Conventions :=
  let ancestors := [{ declaration := report, ref := report.ref }]
  { declarations := declarations
    links := []
    chains := [(ledger.key, []), (report.key, []), (audit.key, ancestors), (alert.key, ancestors)] }

lemma ofDeclarations_eq : Conventions.ofDeclarations declarations = .ok conventions := by
  cbv

def execution : Execution where
  globals := declarations.types.map fun d => (d.name, .type (.bare (classes d.key)))

def table : ClassTable :=
  conventions.classTable {} classes execution

def failure (d : TypeDeclaration) (parameter : String) : Option (String × List String) :=
  match Resolving.instantiate table (Resolving.resolve table 0) (.bare (classes d.key)) [(parameter, .object 0)]
      { objects := [{ type := .bare (classes ledger.key) }] } with
  | some (.error f, w) => some (f.text, w.constructed)
  | _ => none

theorem audit_base_hidden :
    Conventions.ofDeclarations declarations = .ok conventions ∧
      Conventions.Mirrors declarations conventions {} classes table ∧
      (∀ d ∈ [audit, alert], conventions.effective? {} d = some d ∧
        (conventions.lineage d).any (·.declaresMethod ({} : Settings).completionHook)) ∧
      failure audit "Report" = some ("_initialize() takes 1 positional argument but 2 were given", []) ∧
      failure alert "on_initialized" = some ("'Ledger' object is not callable", []) :=
  ⟨ofDeclarations_eq, Conventions.mirrors_classTable ofDeclarations_eq classes_injective (by decide +kernel),
    by decide, by decide +kernel, by decide +kernel⟩

end Alerts

end Wiring
