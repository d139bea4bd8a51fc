import Wiring.Container.Linking
import Wiring.Proofs.Container.Computation
import Wiring.Proofs.Unit.Delivery
import Wiring.Proofs.Unit.Hygiene

/-!
Generated initializers in the container. Linking looks up every name that the body of an initializer reads, among its
parameters first. Where no parameter hides such a name, the initializer of the container does what the statements say.
-/

namespace Wiring

open Container

namespace Statement

def script : Statement → Script.Statement
  | .assign target parameter => .assign [.attribute (.name Linking.self) target] (.name parameter)
  | .callBase base forwarded =>
    .evaluate (.call (.attribute (.name base) "__init__") ((Linking.self :: forwarded).map fun n => (.placed, .name n)))
  | .runHook hook => .evaluate (.call (.attribute (.name Linking.self) hook) [])
  | .runHookUnlessDerived owner hook =>
    .choose (.compared (.attribute (.call (.name "type") [(.placed, .name Linking.self)]) "__init__")
      [("is", .attribute (.name owner) "__init__")]) [.evaluate (.call (.attribute (.name Linking.self) hook) [])] []

def step (binding : String → Binding) : Statement → Step
  | .assign target parameter => .assign target parameter
  | .callBase base forwarded => .callBase (binding base) forwarded
  | .runHook hook => .runHook [hook]
  | .runHookUnlessDerived owner hook => .runHookUnlessDerived (binding "type") (binding owner) [hook]

def meanings (owner base : ClassHead) : Statement → List (String × Binding)
  | .callBase shown _ => [(shown, .class base)]
  | .runHookUnlessDerived shown _ => [("type", .class (.builtin "type")), (shown, .class owner)]
  | _ => []

variable {x : Execution} {parameters : List String}

lemma names?_placed (names : List String) :
    Linking.names? (names.map fun n => (.placed, .name n)) = some names := by
  induction names with
  | nil => rfl
  | cons n ns ih =>
    rw [Linking.names?] at ih ⊢
    rw [List.map_cons, List.mapM_cons, ih]
    rfl

lemma steps_script (st : Statement) :
    Linking.steps x parameters st.script = [st.step (Linking.binding x parameters)] := by
  cases st with
  | assign target parameter => rfl
  | callBase base forwarded =>
    rw [script, Linking.steps, Linking.stepsOf, names?_placed]
    rfl
  | runHook hook =>
    by_cases hhook : hook = "__init__"
    · subst hhook
      rfl
    · rw [script, Linking.steps, Linking.stepsOf]
      · rfl
      · simp [hhook]
      · rfl
  | runHookUnlessDerived owner hook => rfl

lemma step_congr {f g : String → Binding} {st : Statement} (h : ∀ n ∈ st.reads, f n = g n) : st.step f = st.step g := by
  cases st with
  | callBase base forwarded => rw [step, h base (by simp [reads]), step]
  | runHookUnlessDerived owner hook => rw [step, h "type" (by simp [reads]), h owner (by simp [reads]), step]
  | _ => rfl

end Statement

namespace InitializerUnit

def script (u : InitializerUnit) : List Script.Statement :=
  match u.body with
  | [] => [.pass]
  | body => body.map Statement.script

lemma flatMap_script (u : InitializerUnit) (x : Execution) (parameters : List String) :
    u.script.flatMap (Linking.steps x parameters) = u.body.map (·.step (Linking.binding x parameters)) := by
  rw [script]
  cases u.body with
  | nil => rfl
  | cons st sts =>
    rw [List.flatMap_map, List.map_eq_flatMap]
    exact List.flatMap_congr fun st _ => Statement.steps_script st

/-- All that the body reads is found outside of the function. -/
def Clear (u : InitializerUnit) : Prop :=
  u.Hygienic ∧ Linking.self ∉ u.reads

lemma Clear.binding_eq {u : InitializerUnit} (h : u.Clear) {n : String} (hn : n ∈ u.reads) (x : Execution) :
    Linking.binding x (u.parameters.map Prod.fst) n = Linking.outside x n := by
  have hself : n ≠ Linking.self := fun hself => h.2 (hself ▸ hn)
  rw [Linking.binding, if_neg hself, if_neg (h.1 n hn)]

end InitializerUnit

namespace Container

namespace Initializer

lemma valueOf?_of_find?_eq_some {placed named : List (String × Value)} {rest : List Value} {s : Slot} {v : Value}
    (hk : s.kind = .normal) (h : Assoc.find? s.name placed = some v) : valueOf? placed named rest s = some v := by
  rw [valueOf?, hk]
  simp only [h]

lemma values_of_forall₂ {placed named : List (String × Value)} (rest : List Value) {slots : List Slot}
    {arguments : List Value} (h : List.Forall₂ (fun s v => valueOf? placed named rest s = some v) slots arguments) :
    (slots.filter fun s => (valueOf? placed named rest s).isNone) = [] ∧
      (slots.filterMap fun s => (valueOf? placed named rest s).map fun v => (s.name, v)) =
        (slots.map (·.name)).zip arguments := by
  induction h with
  | nil => exact ⟨rfl, rfl⟩
  | cons hv _ ih =>
    obtain ⟨hnone, hvalues⟩ := ih
    constructor
    · rw [List.filter_cons_of_neg (by simp [hv]), hnone]
    · rw [List.filterMap_cons, hv, hvalues]
      rfl

lemma forall₂_find?_slots {i : Initializer} (hk : ∀ s ∈ i.slots, s.kind = .normal)
    (hn : (i.slots.map (·.name)).Nodup) {arguments : List Value} (hl : arguments.length = i.slots.length) :
    List.Forall₂ (fun s v => s.kind = .normal ∧ Assoc.find? s.name ((i.slots.map (·.name)).zip arguments) = some v)
      i.slots arguments := by
  have hfind : List.Forall₂ (fun k v => Assoc.find? k ((i.slots.map (·.name)).zip arguments) = some v)
      (i.slots.map (·.name)) arguments := Assoc.forall₂_find?_zip hn (by rw [List.length_map, hl])
  exact (List.forall₂_and_left _ _).2 ⟨hk, List.forall₂_map_left_iff.1 hfind⟩

lemma bind_placed {i : Initializer} (hk : ∀ s ∈ i.slots, s.kind = .normal) (hn : (i.slots.map (·.name)).Nodup)
    {arguments : List Value} (hl : arguments.length = i.slots.length) :
    i.bind arguments [] = .ok ((i.slots.map (·.name)).zip arguments) := by
  have hpositional : i.positional = i.slots := List.filter_eq_self.2 fun s hs => by simp [hk s hs]
  have hvalue : List.Forall₂ (fun s v => valueOf? ((i.slots.map (·.name)).zip arguments) []
      (arguments.drop i.slots.length) s = some v) i.slots arguments :=
    (forall₂_find?_slots hk hn hl).imp fun s v hs => valueOf?_of_find?_eq_some hs.1 hs.2
  unfold bind
  rw [hpositional]
  obtain ⟨hnone, hvalues⟩ := values_of_forall₂ (arguments.drop i.slots.length) hvalue
  simp only [hnone, hvalues]
  rw [if_neg (by simp [hl])]
  rfl

lemma bind_named {i : Initializer} (hk : ∀ s ∈ i.slots, s.kind = .normal) (hn : (i.slots.map (·.name)).Nodup)
    {arguments : List Value} (hl : arguments.length = i.slots.length) :
    i.bind [] ((i.slots.map (·.name)).zip arguments) = .ok ((i.slots.map (·.name)).zip arguments) := by
  have hvalue : ∀ (s : Slot) (v : Value),
      s.kind = .normal ∧ Assoc.find? s.name ((i.slots.map (·.name)).zip arguments) = some v →
        valueOf? [] ((i.slots.map (·.name)).zip arguments) [] s = some v := by
    rintro s v ⟨hs, hv⟩
    rw [valueOf?, hs]
    simp only [Assoc.find?_nil, hv]
  unfold bind
  simp only [List.zip_nil_right, List.drop_nil]
  obtain ⟨hnone, hvalues⟩ := values_of_forall₂ [] ((forall₂_find?_slots hk hn hl).imp hvalue)
  simp only [hnone, hvalues]
  rw [if_neg (by simp)]
  rfl

end Initializer

end Container

namespace Conventions

variable {set : DeclarationSet} {c : Conventions} {s : Settings} {classes : TypeKey → ClassHead}
  {t : ClassTable} {d e : TypeDeclaration} {i : Initializer} {x : Execution} {f : Function}

def meanings (c : Conventions) (s : Settings) (classes : TypeKey → ClassHead) (d : TypeDeclaration) :
    List (String × Binding) :=
  (InitializerUnit.ofPlan (c.initializerPlan s d)).body.flatMap
    (·.meanings (classes d.key) ((c.initializerPlan s d).base.elim (classes d.key) (classes ·.key)))

/-- The function of a unit as loading it leaves it. Outside of it the names that the body reads are what they are meant
to be. -/
structure Linked (c : Conventions) (s : Settings) (classes : TypeKey → ClassHead) (d : TypeDeclaration)
    (x : Execution) (f : Function) : Prop where
  names : f.parameters.map (·.name) = Linking.self :: c.parameterNames s d
  kinds : ∀ p ∈ f.parameters, p.kind = .normal
  body : f.body = (InitializerUnit.ofPlan (c.initializerPlan s d)).script
  outside : ∀ m ∈ c.meanings s classes d, Linking.outside x m.1 = m.2

structure Generated (c : Conventions) (s : Settings) (classes : TypeKey → ClassHead) (d : TypeDeclaration)
    (i : Initializer) : Prop where
  kinds : ∀ slot ∈ i.slots, slot.kind = .normal
  names : i.slots.map (·.name) = c.parameterNames s d
  body : ∃ binding : String → Binding,
    i.body = (InitializerUnit.ofPlan (c.initializerPlan s d)).body.map (·.step binding) ∧
    ∀ m ∈ c.meanings s classes d, binding m.1 = m.2

lemma Linked.generated (h : Linked c s classes d x f)
    (hclear : (InitializerUnit.ofPlan (c.initializerPlan s d)).Clear) :
    Generated c s classes d (Linking.initializerOf x f) := by
  have hnames : f.parameters.tail.map (·.name) = c.parameterNames s d := by rw [List.map_tail, h.names, List.tail_cons]
  have hslots : (f.parameters.tail.map (Linking.slot x)).map (·.name) = c.parameterNames s d := by
    rw [List.map_map, ← hnames]
    rfl
  refine ⟨fun slot hslot => ?_, hslots, Linking.outside x, ?_, h.outside⟩
  · obtain ⟨p, hp, rfl⟩ := List.mem_map.1 hslot
    rw [Linking.slot, h.kinds p (List.mem_of_mem_tail hp)]
    rfl
  · rw [Linking.initializerOf, hslots, h.body, InitializerUnit.flatMap_script]
    refine List.map_congr_left fun st hst => Statement.step_congr fun n hn => ?_
    rw [← map_name_parameters, ← InitializerUnit.map_fst_parameters]
    exact hclear.binding_eq (List.mem_flatMap.2 ⟨st, hst, hn⟩) x

lemma Generated.length_slots (hi : Generated c s classes e i) : i.slots.length = (c.requirements s e).length := by
  rw [← List.length_map (·.name), hi.names, length_parameterNames]

/-- Classes as they are declared: each has the initializer that was generated for it or for the nearest class above
it, and the hook if that is declared for it or above it. The attributes for dependencies can be given. -/
structure Mirrors (set : DeclarationSet) (c : Conventions) (s : Settings) (classes : TypeKey → ClassHead)
    (t : ClassTable) : Prop where
  initialized : ∀ d ∈ set.types, ∀ e, c.effective? s d = some e → ∃ x f,
    t.initializer? (classes d.key) = some (classes e.key, Linking.initializerOf x f) ∧ Linked c s classes e x f
  hook : ∀ d ∈ set.types, (c.lineage d).any (·.declaresMethod s.completionHook) →
    t.hasHook (classes d.key) s.completionHook
  settable : ∀ d ∈ set.types, ∀ a ∈ c.attributes s d, t.hasProperty (classes d.key) a = false

lemma exists_effective_of_base (hc : ofDeclarations set = .ok c) (hd : d ∈ set.types) {r : TypeRef}
    {b : TypeDeclaration} (hb : set.classBase? d = some (r, b)) {base : TypeRef}
    (hbase : (c.initializerPlan s d).base = some base) : base.key = b.key ∧ ∃ e, c.effective? s b = some e := by
  rw [base_eq] at hbase
  split at hbase
  · rename_i hany
    rw [superclasses_of_derived hc hd hb, List.any_eq_true] at hany
    rcases ancestors_cases hc hd with ⟨hnone, -⟩ | ⟨r', b', rest, hb', -, ha, -⟩
    · rw [hb] at hnone
      cases hnone
    · rw [hb] at hb'
      cases hb'
      rw [ha, List.head?_cons, Option.map_some, Option.some.injEq] at hbase
      obtain ⟨-, hf, -⟩ := DeclarationSet.classBase?_eq_some hb
      rw [DeclarationSet.find?] at hf
      have hkey := List.find?_some hf
      exact ⟨hbase ▸ (of_decide_eq_true hkey).symm, Option.isSome_iff_exists.1 (List.find?_isSome.2 hany)⟩
  · cases hbase

/-! Classes that have the initializers of their units, and all names in reach. -/

def linkedFunction (c : Conventions) (s : Settings) (d : TypeDeclaration) : Function where
  name := InitializerUnit.functionName
  parameters := (Linking.self :: c.parameterNames s d).map fun name => { name }
  body := (InitializerUnit.ofPlan (c.initializerPlan s d)).script

lemma linked_linkedFunction (h : ∀ m ∈ c.meanings s classes d, Linking.outside x m.1 = m.2) :
    Linked c s classes d x (c.linkedFunction s d) where
  names := by simp [linkedFunction, Function.comp_def]
  kinds := by simp [linkedFunction]
  body := rfl
  outside := h

def runtimeClass (c : Conventions) (s : Settings) (classes : TypeKey → ClassHead) (x : Execution)
    (d : TypeDeclaration) : RuntimeClass where
  head := classes d.key
  lineage := (c.lineage d).map (classes ·.key)
  hooks := (d.members.filter (·.kind = .method)).map (·.name)
  initializer := if c.isInitialized s d then some (Linking.initializerOf x (c.linkedFunction s d)) else none

def classTable (c : Conventions) (s : Settings) (classes : TypeKey → ClassHead) (x : Execution) : ClassTable :=
  c.declarations.types.map (c.runtimeClass s classes x)

lemma find?_classTable (hc : ofDeclarations set = .ok c) (hinj : Function.Injective classes) (x : Execution)
    (hd : d ∈ set.types) :
    (c.classTable s classes x).find? (classes d.key) = some (c.runtimeClass s classes x d) := by
  have hkey : ((fun k : RuntimeClass => decide (k.head = classes d.key)) ∘ c.runtimeClass s classes x) =
      fun e => decide (e.key = d.key) := by
    funext e
    exact decide_eq_decide.2 hinj.eq_iff
  rw [ClassTable.find?, classTable, (ofDeclarations_cases hc).1, List.find?_map, hkey,
    DeclarationSet.find?_eq_some_of_mem set.keys_nodup hd, Option.map_some]

lemma ancestors_classTable (hc : ofDeclarations set = .ok c) (hinj : Function.Injective classes) (x : Execution)
    (hd : d ∈ set.types) :
    (c.classTable s classes x).ancestors (classes d.key) = (c.lineage d).map (c.runtimeClass s classes x) := by
  have hmem : ∀ e ∈ c.lineage d, e ∈ set.types := fun e he => mem_types_of_mem_lineage hc hd he
  rw [ClassTable.ancestors, ClassTable.lineage, find?_classTable hc hinj x hd, runtimeClass, List.filterMap_map]
  generalize c.lineage d = es at hmem
  induction es with
  | nil => rfl
  | cons e es ih =>
    obtain ⟨he, hes⟩ := List.forall_mem_cons.1 hmem
    rw [List.filterMap_cons, Function.comp_apply, find?_classTable hc hinj x he, List.map_cons, ih hes]

lemma initializer?_classTable (hc : ofDeclarations set = .ok c) (hinj : Function.Injective classes) (x : Execution)
    (hd : d ∈ set.types) (he : c.effective? s d = some e) :
    (c.classTable s classes x).initializer? (classes d.key) =
      some (classes e.key, Linking.initializerOf x (c.linkedFunction s e)) := by
  rw [ClassTable.initializer?, ancestors_classTable hc hinj x hd, List.findSome?_map]
  rw [effective?] at he
  generalize c.lineage d = es at he
  induction es with
  | nil => cases he
  | cons f es ih =>
    rw [List.find?_cons] at he
    rw [List.findSome?_cons]
    cases hf : c.isInitialized s f with
    | true =>
      rw [hf] at he
      cases he
      simp [runtimeClass, hf]
    | false =>
      rw [hf] at he
      simpa [runtimeClass, hf] using ih he

lemma mem_hooks_runtimeClass (c : Conventions) (s : Settings) (x : Execution) {hook : String} :
    hook ∈ (c.runtimeClass s classes x d).hooks ↔ d.declaresMethod hook := by
  simp [runtimeClass, TypeDeclaration.declaresMethod, and_comm, and_assoc]

lemma mirrors_classTable (hc : ofDeclarations set = .ok c) (hinj : Function.Injective classes)
    (hlinked : ∀ d ∈ set.types, ∀ m ∈ c.meanings s classes d, Linking.outside x m.1 = m.2) :
    Mirrors set c s classes (c.classTable s classes x) where
  initialized := fun d hd e he => by
    have hmem : e ∈ set.types := mem_types_of_mem_lineage hc hd (List.mem_of_find?_eq_some he)
    exact ⟨x, _, initializer?_classTable hc hinj x hd he, linked_linkedFunction (hlinked e hmem)⟩
  hook := fun d hd hhook => by
    rw [ClassTable.hasHook, ancestors_classTable hc hinj x hd, List.any_map]
    refine List.any_eq_true.2 ?_
    obtain ⟨e, he, hhook⟩ := List.any_eq_true.1 hhook
    exact ⟨e, he, by simpa [mem_hooks_runtimeClass] using hhook⟩
  settable := fun d hd a _ => by
    refine ClassTable.hasProperty_eq_false (fun k hk => ?_) _ a
    obtain ⟨e, -, rfl⟩ := List.mem_map.1 hk
    rfl

end Conventions

end Wiring
