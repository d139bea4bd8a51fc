import Wiring.Proofs.Unit.Initialization

/-!
Where the arguments of an initializer end up. Own ones are assigned in place, the rest go to the nearest initializer
above, which takes them in the same order; so one level after the other writes its part of the attributes.
-/

namespace Wiring.Conventions

variable {α : Type} {set : DeclarationSet} {c : Conventions} {s : Settings} {d e self : TypeDeclaration}

/-- A call that runs the initializers of a list of types, one after the other, each of which writes the dependencies of
its type and nothing else. -/
def Delivers (c : Conventions) (s : Settings) (types : List TypeDeclaration) (arguments : List α)
    (result : Option (List (InitializerEvent α))) : Prop :=
  ∃ events, result = some events ∧
    InitializerEvent.written events = ((requirementsOf s types).map attributeOf).zip arguments ∧
    InitializerEvent.called events = types.filter (c.isInitialized s) ∧ c.Balanced s events

lemma isInitialized_of_base_eq_none (h : (c.initializerPlan s d).base = none) :
    ∀ e ∈ c.superclasses d, c.isInitialized s e = false := by
  rw [base_eq] at h
  split at h
  · have ha : c.ancestors d = [] := by simpa using h
    rw [superclasses, ha]
    exact fun e he => by cases he
  · rename_i hany
    intro e he
    cases hi : c.isInitialized s e with
    | false => rfl
    | true => exact absurd (List.any_eq_true.2 ⟨e, he, hi⟩) hany

lemma written_own_append {arguments : List α} (hl : arguments.length = (c.requirements s d).length)
    {events : List (InitializerEvent α)} (h : InitializerEvent.written events =
      ((c.inheritedRequirements s d).map attributeOf).zip (arguments.drop (s.dependencies d).length)) :
    InitializerEvent.written (List.zipWith .write (((s.dependencies d).map (d, ·)).map attributeOf)
        (arguments.take (s.dependencies d).length) ++ events) =
      ((requirementsOf s (c.lineage d)).map attributeOf).zip arguments := by
  have hk : (((s.dependencies d).map (d, ·)).map attributeOf).length =
      (arguments.take (s.dependencies d).length).length := by
    rw [requirements_eq, List.length_append, List.length_map] at hl
    simp only [List.length_map, List.length_take]
    omega
  rw [InitializerEvent.written_append, h, InitializerEvent.written_zipWith_write, ← List.zip_append hk,
    List.take_append_drop, ← List.map_append, ← requirements_eq]
  rfl

lemma runAll_body {arguments : List α} (hl : arguments.length = (c.requirements s d).length) (runsHook : Bool)
    {callBase : List α → Option (List (InitializerEvent α))}
    (hbase : Delivers c s (c.superclasses d) (arguments.drop (s.dependencies d).length)
      (callBase (arguments.drop (s.dependencies d).length))) :
    ∃ events, Statement.runAll runsHook ((c.parameterNames s d).zip arguments) callBase
        (InitializerUnit.ofPlan (c.initializerPlan s d)).body = some events ∧
      InitializerEvent.written events = ((requirementsOf s (c.lineage d)).map attributeOf).zip arguments ∧
      InitializerEvent.called events = (c.superclasses d).filter (c.isInitialized s) ∧ c.Balanced s events := by
  obtain ⟨owner, shown, hbody⟩ := InitializerUnit.body_eq (c.initializerPlan s d)
  obtain ⟨above, hcall, hwritten, hcalled, hbalanced⟩ := hbase
  obtain ⟨hooks, hhooks, hnone, hquiet, hhooksBalanced⟩ := runAll_hookStatements c s (c.initializerPlan s d) owner
    runsHook ((c.parameterNames s d).zip arguments) callBase
  have hvalues : (c.initializerPlan s d).forwarded.mapM (Assoc.find? · ((c.parameterNames s d).zip arguments)) =
      some (arguments.drop (s.dependencies d).length) := by
    rw [forwarded_eq]
    exact Assoc.mapM_find?_zip_drop (parameterNames_nodup c s d) (by rw [length_parameterNames, hl]) _
  let own := List.zipWith InitializerEvent.write (((s.dependencies d).map (d, ·)).map attributeOf)
    (arguments.take (s.dependencies d).length)
  have hown : c.Balanced s own := balanced_zipWith_write c s _ _
  rw [hbody, Statement.runAll_append, Statement.runAll_append, runAll_assignments c s d hl, hhooks]
  cases hb : (c.initializerPlan s d).base with
  | none =>
    have hi := isInitialized_of_base_eq_none hb
    have hw : InitializerEvent.written own = ((requirementsOf s (c.lineage d)).map attributeOf).zip arguments := by
      rw [← List.append_nil own]
      refine written_own_append hl ?_
      rw [inheritedRequirements, requirementsOf_eq_nil hi]
      rfl
    refine ⟨own ++ hooks, by simp [Statement.runAll, own], ?_, ?_, hown.append hhooksBalanced⟩
    · rw [InitializerEvent.written_append, hnone, List.append_nil, hw]
    · rw [InitializerEvent.called_append, hquiet, InitializerEvent.called_zipWith_write, List.filter_eq_nil_iff.2]
      · rfl
      · exact fun e he => by simp [hi e he]
  | some b =>
    refine ⟨own ++ above ++ hooks, ?_, ?_, ?_, (hown.append hbalanced).append hhooksBalanced⟩
    · simp [Statement.runAll, Statement.run, hvalues, hcall, own]
    · rw [InitializerEvent.written_append, hnone, List.append_nil, written_own_append hl hwritten]
    · simp [own, hquiet, hcalled]

lemma callNearest_lineage
    (habove : ∀ arguments : List α, arguments.length = (c.inheritedRequirements s d).length →
      Delivers c s (c.superclasses d) arguments (c.callNearest s self (c.superclasses d) arguments))
    {arguments : List α} (hl : arguments.length = (c.requirements s d).length) :
    Delivers c s (c.lineage d) arguments (c.callNearest s self (c.lineage d) arguments) := by
  rw [lineage, callNearest]
  split
  · rename_i hi
    have hp : arguments.length = (InitializerUnit.ofPlan (c.initializerPlan s d)).parameters.length := by
      rw [InitializerUnit.length_parameters, length_parameters, hl]
    simp only [InitializerUnit.map_fst_parameters, map_name_parameters, if_pos hp]
    have hrest := habove (arguments.drop (s.dependencies d).length) (by
      rw [List.length_drop, hl, requirements_eq, List.length_append, List.length_map]
      omega)
    obtain ⟨events, hrun, hwritten, hcalled, hbalanced⟩ := runAll_body hl (decide (c.effective? s self = some d)) hrest
    refine ⟨.call d arguments :: events, by rw [hrun, Option.map_some], hwritten, ?_, ?_⟩
    · rw [InitializerEvent.called_cons_call, hcalled, List.filter_cons_of_pos hi]
    · intro e given he
      rcases List.mem_cons.1 he with he | he
      · cases he
        rw [length_parameters, hl]
      · exact hbalanced e given he
  · rename_i hi
    have hnone : s.dependencies d = [] := dependencies_eq_nil (c := c) (by simpa using hi)
    rw [requirements_eq, hnone] at hl
    obtain ⟨events, hcall, hwritten, hcalled, hbalanced⟩ := habove arguments hl
    refine ⟨events, hcall, ?_, ?_, hbalanced⟩
    · rw [hwritten, requirementsOf_cons, hnone]
      rfl
    · rw [hcalled, List.filter_cons_of_neg hi]

theorem callNearest_delivers (hc : ofDeclarations set = .ok c) (hd : d ∈ set.types) (self : TypeDeclaration)
    {arguments : List α} (hl : arguments.length = (c.requirements s d).length) :
    Delivers c s (c.lineage d) arguments (c.callNearest s self (c.lineage d) arguments) := by
  induction d, hd using lineage_induction hc generalizing arguments with
  | root d hd hb =>
    refine callNearest_lineage (fun given hgiven => ?_) hl
    rw [inheritedRequirements, superclasses_of_root hc hd hb] at hgiven
    rw [superclasses_of_root hc hd hb, List.eq_nil_of_length_eq_zero hgiven]
    exact ⟨[], rfl, rfl, rfl, fun e given h => by cases h⟩
  | derived d hd r b hb _ ih =>
    refine callNearest_lineage (fun given hgiven => ?_) hl
    rw [superclasses_of_derived hc hd hb]
    rw [inheritedRequirements, superclasses_of_derived hc hd hb] at hgiven
    exact ih hgiven

lemma find?_attributes {arguments : List α} (hl : arguments.length = (c.requirements s d).length)
    {events : List (InitializerEvent α)}
    (h : InitializerEvent.written events = (c.attributes s d).zip arguments) {a : String} {i : Nat}
    (ha : (c.attributes s d)[i]? = some a) (hlast : a ∉ (c.attributes s d).drop (i + 1)) :
    Assoc.find? a (InitializerEvent.attributes events) = arguments[i]? := by
  have hi : i < arguments.length := by
    rw [hl, ← length_attributes]
    exact (List.getElem?_eq_some_iff.1 ha).1
  rw [List.getElem?_eq_getElem hi, InitializerEvent.attributes, h]
  exact Assoc.find?_ofPairs_zip ha (List.getElem?_eq_getElem hi) hlast

/-- Where no two parameters of a type are kept in the same attribute, every argument arrives in the attribute of the
member that its parameter stands for, seen from the type that declares the member. -/
theorem construct_delivers (hc : ofDeclarations set = .ok c) (hd : d ∈ set.types) (hn : (c.attributes s d).Nodup)
    {arguments : List α} (hl : arguments.length = (c.initializerPlan s d).parameters.length) :
    ∃ events, c.construct s d arguments = some events ∧
      (∀ (i : Nat) (p : InitializerParameter), (c.initializerPlan s d).parameters[i]? = some p →
        ∃ e, (c.requirements s d)[i]? = some (e, p.member) ∧
          Assoc.find? (mangled e.name p.member.name) (InitializerEvent.attributes events) = arguments[i]?) ∧
      InitializerEvent.called events = (c.lineage d).filter (c.isInitialized s) ∧ c.Balanced s events ∧
      ∀ a v, .write a v ∈ events → a ∈ c.attributes s d := by
  rw [length_parameters] at hl
  obtain ⟨events, hrun, hwritten, hcalled, hbalanced⟩ := callNearest_delivers (s := s) hc hd d hl
  refine ⟨events, hrun, fun i p hp => ?_, hcalled, hbalanced, fun a v h => ?_⟩
  · have hmember : ((c.requirements s d)[i]?).map Prod.snd = some p.member := by
      rw [← List.getElem?_map, ← map_member_parameters, List.getElem?_map, hp, Option.map_some]
    obtain ⟨⟨e, m⟩, hr, hm⟩ := Option.map_eq_some_iff.1 hmember
    obtain rfl : m = p.member := hm
    have ha : (c.attributes s d)[i]? = some (mangled e.name p.member.name) := by
      rw [attributes, List.getElem?_map, hr, Option.map_some, attributeOf]
    refine ⟨e, hr, find?_attributes hl hwritten ha ?_⟩
    obtain ⟨hi, hget⟩ := List.getElem?_eq_some_iff.1 ha
    rw [← List.take_append_drop i (c.attributes s d), List.drop_eq_getElem_cons hi, hget] at hn
    exact (List.nodup_cons.1 (List.nodup_append.1 hn).2.1).1
  · have h := InitializerEvent.mem_written h
    rw [hwritten] at h
    exact (List.of_mem_zip h).1

theorem construct_delivers_invoice :
    let c := Documents.conventions
    ∃ events, c.construct {} Documents.invoice ["post", "book", "fax"] = some events ∧
      (∀ (i : Nat) (p : InitializerParameter), (c.initializerPlan {} Documents.invoice).parameters[i]? = some p →
        ∃ e, (c.requirements {} Documents.invoice)[i]? = some (e, p.member) ∧
          Assoc.find? (mangled e.name p.member.name) (InitializerEvent.attributes events) =
            ["post", "book", "fax"][i]?) ∧
      InitializerEvent.called events = (c.lineage Documents.invoice).filter (c.isInitialized {}) ∧
      c.Balanced {} events ∧ ∀ a v, .write a v ∈ events → a ∈ c.attributes {} Documents.invoice :=
  construct_delivers Documents.ofDeclarations_eq (by decide) (by decide) (by decide)

lemma getElem?_attributes_own {i : Nat} {m : MemberDeclaration} (hm : (s.dependencies d)[i]? = some m) :
    (c.attributes s d)[i]? = some (mangled d.name m.name) := by
  have hi : i < (s.dependencies d).length := (List.getElem?_eq_some_iff.1 hm).1
  rw [attributes, requirements_eq, List.map_append, List.getElem?_append_left (by simpa using hi), List.map_map,
    List.getElem?_map, hm]
  rfl

lemma not_mem_drop_attributes_iff {i : Nat} (hi : i < (s.dependencies d).length) (a : String) :
    a ∉ (c.attributes s d).drop (i + 1) ↔
      (∀ n ∈ (s.dependencies d).drop (i + 1), mangled d.name n.name ≠ a) ∧
        ∀ r ∈ c.inheritedRequirements s d, attributeOf r ≠ a := by
  have hk : i + 1 - ((s.dependencies d).map (d, ·)).length = 0 := by
    rw [List.length_map]
    omega
  rw [attributes, requirements_eq, ← List.map_drop, List.drop_append, hk, List.drop_zero, ← List.map_drop,
    List.map_append, List.mem_append, not_or, List.map_map]
  simp only [List.mem_map, not_exists, not_and, Function.comp_apply, attributeOf, ne_eq]

/-- An own dependency keeps its argument exactly if neither a later own dependency nor one of an ancestor is kept in
the same attribute. -/
theorem own_argument_kept_iff [Nontrivial α] (hc : ofDeclarations set = .ok c) (hd : d ∈ set.types) {i : Nat}
    {m : MemberDeclaration} (hm : (s.dependencies d)[i]? = some m) :
    (∀ arguments : List α, arguments.length = (c.initializerPlan s d).parameters.length →
      ∃ events, c.construct s d arguments = some events ∧
        Assoc.find? (mangled d.name m.name) (InitializerEvent.attributes events) = arguments[i]?) ↔
      (∀ n ∈ (s.dependencies d).drop (i + 1), mangled d.name n.name ≠ mangled d.name m.name) ∧
        ∀ r ∈ c.inheritedRequirements s d, attributeOf r ≠ mangled d.name m.name := by
  rw [← not_mem_drop_attributes_iff (List.getElem?_eq_some_iff.1 hm).1]
  constructor
  · intro hkept hmem
    -- the argument of the last parameter with the attribute is not that of this one
    obtain ⟨j, hj, hlast⟩ := Assoc.exists_last_place hmem
    rw [List.getElem?_drop] at hj
    rw [List.drop_drop] at hlast
    have hlength : i + 1 + j < (c.requirements s d).length := by
      rw [← length_attributes]
      exact (List.getElem?_eq_some_iff.1 hj).1
    obtain ⟨v, w, hne⟩ := exists_pair_ne α
    let given := (List.replicate (c.requirements s d).length v).set (i + 1 + j) w
    have hgiven : given.length = (c.requirements s d).length := by simp [given]
    obtain ⟨events, hrun, hfind⟩ := hkept given (by rw [hgiven, length_parameters])
    obtain ⟨events', hrun', hwritten, -⟩ := callNearest_delivers (s := s) hc hd d hgiven
    obtain rfl : events = events' := Option.some.inj (hrun.symm.trans hrun')
    have hw : given[i + 1 + j]? = some w := by simp [given, hlength]
    have hv : given[i]? = some v := by
      rw [List.getElem?_set_ne (by omega), List.getElem?_replicate, if_pos (by omega)]
    rw [find?_attributes hgiven hwritten hj hlast, hw, hv, Option.some.injEq] at hfind
    exact hne hfind.symm
  · intro hlast arguments hl
    rw [length_parameters] at hl
    obtain ⟨events, hrun, hwritten, -⟩ := callNearest_delivers (s := s) hc hd d hl
    exact ⟨events, hrun, find?_attributes hl hwritten (getElem?_attributes_own hm) hlast⟩

theorem own_argument_kept_iff_invoice :
    let c := Documents.conventions
    (∀ arguments : List Nat, arguments.length = (c.initializerPlan {} Documents.invoice).parameters.length →
      ∃ events, c.construct {} Documents.invoice arguments = some events ∧
        Assoc.find? "_Invoice__mailer" (InitializerEvent.attributes events) = arguments[0]?) ↔
      (∀ n ∈ [Documents.dependency "Invoice" "ledger" "Ledger"], mangled "Invoice" n.name ≠ "_Invoice__mailer") ∧
        ∀ r ∈ c.inheritedRequirements {} Documents.invoice, attributeOf r ≠ "_Invoice__mailer" := by
  have hm : (({} : Settings).dependencies Documents.invoice)[0]? =
      some (Documents.dependency "Invoice" "__mailer" "Mailer") := rfl
  exact own_argument_kept_iff Documents.ofDeclarations_eq (by decide) hm

end Wiring.Conventions

/-! A service that takes a clock of its own where its base takes one of the same name. -/

namespace Wiring.Clocks

open Documents (named dependency)

def service : TypeDeclaration where
  ref := named "Service"
  members := [dependency "Service" "_clock" "Clock"]

def localService : TypeDeclaration where
  ref := named "LocalService"
  base := some (named "Service")
  members := [dependency "LocalService" "_clock" "LocalClock"]

def declarations : DeclarationSet where
  types := [service, localService]
  keys_nodup := by decide

def conventions : Conventions where
  declarations := declarations
  links := []
  chains := [(service.key, []), (localService.key, [{ declaration := service, ref := service.ref }])]

theorem own_clock_lost :
    Conventions.ofDeclarations declarations = .ok conventions ∧ conventions.isInitialized {} localService ∧
      (({} : Settings).dependencies localService).map (·.name) = ["_clock"] ∧
      ((conventions.initializerPlan {} localService).parameters.map fun p => (p.name, p.declaredBy.name)) =
        [("clock", "LocalService"), ("clock_2", "Service")] ∧
      (conventions.construct {} localService ["local", "shared"]).map InitializerEvent.attributes =
        some [("_clock", "shared")] :=
  ⟨by cbv, by decide, by decide, by decide, by decide⟩

end Wiring.Clocks
