import Wiring.Proofs.Assoc
import Wiring.Proofs.Plan.Forwarding
import Wiring.Unit.Initializer

/-!
What generated initializers do to an object. Each statement of a body is carried out in order; a call of the base's
initializer goes to the nearest one that was generated further up the chain. The names in a body stand for what they
were written for.
-/

namespace Wiring

inductive InitializerEvent (α : Type) where
  | write (target : String) (value : α)
  | call (owner : TypeDeclaration) (arguments : List α)
  | hook (name : String)

namespace InitializerEvent

variable {α : Type}

def written? : InitializerEvent α → Option (String × α)
  | write target value => some (target, value)
  | _ => none

def written (events : List (InitializerEvent α)) : List (String × α) :=
  events.filterMap written?

def called? : InitializerEvent α → Option TypeDeclaration
  | call owner _ => some owner
  | _ => none

def called (events : List (InitializerEvent α)) : List TypeDeclaration :=
  events.filterMap called?

def attributes (events : List (InitializerEvent α)) : List (String × α) :=
  Assoc.ofPairs (written events)

@[simp] lemma written_append (es fs : List (InitializerEvent α)) : written (es ++ fs) = written es ++ written fs :=
  List.filterMap_append

@[simp] lemma called_append (es fs : List (InitializerEvent α)) : called (es ++ fs) = called es ++ called fs :=
  List.filterMap_append

@[simp] lemma called_cons_call (d : TypeDeclaration) (arguments : List α) (events : List (InitializerEvent α)) :
    called (.call d arguments :: events) = d :: called events :=
  rfl

@[simp] lemma written_zipWith_write (targets : List String) (vs : List α) :
    written (List.zipWith .write targets vs) = targets.zip vs := by
  induction targets generalizing vs with
  | nil => rfl
  | cons t ts ih =>
    cases vs with
    | nil => rfl
    | cons v vs => exact congrArg ((t, v) :: ·) (ih vs)

@[simp] lemma called_zipWith_write (targets : List String) (vs : List α) :
    called (List.zipWith .write targets vs) = [] := by
  induction targets generalizing vs with
  | nil => rfl
  | cons t ts ih =>
    cases vs with
    | nil => rfl
    | cons v vs => exact ih vs

lemma mem_written {a : String} {v : α} {events : List (InitializerEvent α)} (h : write a v ∈ events) :
    (a, v) ∈ written events :=
  List.mem_filterMap.2 ⟨_, h, rfl⟩

end InitializerEvent

section Statements

variable {α : Type} (runsHook : Bool) (values : List (String × α))
  (callBase : List α → Option (List (InitializerEvent α)))

def Statement.run : Statement → Option (List (InitializerEvent α))
  | .assign target parameter => (Assoc.find? parameter values).map fun v => [.write target v]
  | .callBase _ forwarded => (forwarded.mapM (Assoc.find? · values)).bind callBase
  | .runHook hook => some [.hook hook]
  | .runHookUnlessDerived _ hook => some (if runsHook then [.hook hook] else [])

def Statement.runAll : List Statement → Option (List (InitializerEvent α))
  | [] => some []
  | t :: ts => do return (← run runsHook values callBase t) ++ (← runAll ts)

lemma Statement.runAll_append (ts us : List Statement) :
    runAll runsHook values callBase (ts ++ us) =
      do return (← runAll runsHook values callBase ts) ++ (← runAll runsHook values callBase us) := by
  induction ts with
  | nil => cases h : runAll runsHook values callBase us <;> simp [runAll, h]
  | cons t ts ih =>
    cases ht : run runsHook values callBase t <;> cases hts : runAll runsHook values callBase ts <;>
      cases hus : runAll runsHook values callBase us <;> simp [runAll, ih, ht, hts, hus]

lemma Statement.runAll_assign {targets parameters : List String} {vs : List α}
    (hl : targets.length = parameters.length) (h : parameters.mapM (Assoc.find? · values) = some vs) :
    runAll runsHook values callBase ((targets.zip parameters).map fun a => .assign a.1 a.2) =
      some (List.zipWith .write targets vs) := by
  induction targets generalizing parameters vs with
  | nil =>
    cases parameters with
    | nil => rfl
    | cons p ps => cases hl
  | cons t ts ih =>
    cases parameters with
    | nil => cases hl
    | cons p ps =>
      cases hp : Assoc.find? p values with
      | none => simp [hp] at h
      | some v =>
        cases hps : ps.mapM (Assoc.find? · values) with
        | none => simp [hp, hps] at h
        | some us =>
          have hvs : v :: us = vs := by simpa [hp, hps] using h
          subst hvs
          simp [runAll, run, hp, ih (Nat.succ.inj hl) hps]

end Statements

namespace Conventions

def effective? (c : Conventions) (s : Settings) (d : TypeDeclaration) : Option TypeDeclaration :=
  (c.lineage d).find? (c.isInitialized s)

def callNearest {α : Type} (c : Conventions) (s : Settings) (self : TypeDeclaration) :
    List TypeDeclaration → List α → Option (List (InitializerEvent α))
  | [], [] => some []
  | [], _ :: _ => none
  | d :: ds, arguments =>
    if c.isInitialized s d then
      let unit := InitializerUnit.ofPlan (c.initializerPlan s d)
      if arguments.length = unit.parameters.length then
        (Statement.runAll (decide (c.effective? s self = some d)) ((unit.parameters.map Prod.fst).zip arguments)
          (callNearest c s self ds) unit.body).map (InitializerEvent.call d arguments :: ·)
      else none
    else callNearest c s self ds arguments

def construct {α : Type} (c : Conventions) (s : Settings) (d : TypeDeclaration) (arguments : List α) :
    Option (List (InitializerEvent α)) :=
  c.callNearest s d (c.lineage d) arguments

end Conventions

namespace InitializerUnit

lemma renderParameters_names (ps : List InitializerParameter) (t : ImportTable) :
    ((renderParameters ps).run t).1.map Prod.fst = ps.map (·.name) := by
  induction ps generalizing t with
  | nil => rfl
  | cons p ps ih => exact congrArg (p.name :: ·) (ih _)

lemma map_fst_parameters (plan : InitializerPlan) :
    (ofPlan plan).parameters.map Prod.fst = plan.parameters.map (·.name) := by
  have h := renderParameters_names plan.parameters
    (ImportTable.name plan.owner (ImportTable.create [] plan.bounds)).2
  rw [← h]
  cases hb : plan.base <;> simp [ofPlan, build, hb] <;> rfl

lemma length_parameters (plan : InitializerPlan) : (ofPlan plan).parameters.length = plan.parameters.length := by
  rw [← List.length_map Prod.fst, map_fst_parameters, List.length_map]

lemma body_eq (plan : InitializerPlan) : ∃ owner shown, (ofPlan plan).body =
    assignments plan ++ (plan.base.toList.map fun _ => .callBase shown plan.forwarded) ++
      hookStatements plan owner := by
  cases h : plan.base with
  | none => exact ⟨_, "", by simp [ofPlan, build, h]; rfl⟩
  | some b => exact ⟨_, _, by simp [ofPlan, build, h]; rfl⟩

end InitializerUnit

namespace Conventions

variable {α : Type} {set : DeclarationSet} {c : Conventions} {s : Settings} {d : TypeDeclaration}

def attributeOf (r : TypeDeclaration × MemberDeclaration) : String :=
  mangled r.1.name r.2.name

def attributes (c : Conventions) (s : Settings) (d : TypeDeclaration) : List String :=
  (c.requirements s d).map attributeOf

@[simp] lemma length_attributes (c : Conventions) (s : Settings) (d : TypeDeclaration) :
    (c.attributes s d).length = (c.requirements s d).length :=
  List.length_map _

def Balanced (c : Conventions) (s : Settings) (events : List (InitializerEvent α)) : Prop :=
  ∀ e arguments, .call e arguments ∈ events → arguments.length = (c.initializerPlan s e).parameters.length

lemma Balanced.append {es fs : List (InitializerEvent α)} (he : c.Balanced s es) (hf : c.Balanced s fs) :
    c.Balanced s (es ++ fs) := by
  intro e arguments h
  rcases List.mem_append.1 h with h | h
  · exact he e arguments h
  · exact hf e arguments h

lemma balanced_zipWith_write (c : Conventions) (s : Settings) (targets : List String) (vs : List α) :
    c.Balanced s (List.zipWith .write targets vs) := by
  intro e arguments h
  obtain ⟨i, hi, he⟩ := List.getElem_of_mem h
  rw [List.getElem_zipWith] at he
  cases he

lemma runAll_hookStatements (c : Conventions) (s : Settings) (plan : InitializerPlan) (owner : String) (runsHook : Bool)
    (values : List (String × α)) (callBase : List α → Option (List (InitializerEvent α))) :
    ∃ events, Statement.runAll runsHook values callBase (InitializerUnit.hookStatements plan owner) = some events ∧
      InitializerEvent.written events = [] ∧ InitializerEvent.called events = [] ∧ c.Balanced s events := by
  unfold InitializerUnit.hookStatements
  split
  · exact ⟨[], rfl, rfl, rfl, fun e arguments h => by cases h⟩
  · split <;> cases runsHook <;> refine ⟨_, rfl, rfl, rfl, fun e arguments h => ?_⟩ <;> simp at h

lemma runAll_assignments (c : Conventions) (s : Settings) (d : TypeDeclaration) {arguments : List α}
    (hl : arguments.length = (c.requirements s d).length) (runsHook : Bool)
    (callBase : List α → Option (List (InitializerEvent α))) :
    Statement.runAll runsHook ((c.parameterNames s d).zip arguments) callBase
        (InitializerUnit.assignments (c.initializerPlan s d)) =
      some (List.zipWith .write (((s.dependencies d).map (d, ·)).map attributeOf)
        (arguments.take (s.dependencies d).length)) := by
  have hass : InitializerUnit.assignments (c.initializerPlan s d) =
      ((((s.dependencies d).map (d, ·)).map attributeOf).zip
        ((c.parameterNames s d).take (s.dependencies d).length)).map fun a => .assign a.1 a.2 := by
    rw [InitializerUnit.assignments, assignments_eq]
    simp only [List.zip_map_left, List.map_map]
    rfl
  rw [hass]
  refine Statement.runAll_assign _ _ _ ?_ ?_
  · simpa using length_dependencies_le c s d
  · exact Assoc.mapM_find?_zip_take (parameterNames_nodup c s d) (by simpa using hl.symm) _

end Conventions

end Wiring
