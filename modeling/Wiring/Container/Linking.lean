import Wiring.Container.Hint
import Wiring.Container.Resolution
import Wiring.Generation

/-!
Generated units put to work. An initializer unit gives its owner a new initializer, and the registration unit adds to
the services that there are. What the body of an initializer says is carried out on every object that is made.
-/

namespace Wiring.Container.Linking

open Script Executing

def kindOf : Script.Fault → String
  | .malformed => "SyntaxError"
  | .misindented => "IndentationError"
  | .mixedTabs => "TabError"

def raisedBy (f : Script.Fault) : Raised where
  kind := kindOf f
  message := "invalid syntax"

def loadedName (unit : String) : String :=
  String.ofList (unit.toList.take (unit.length - 3))

def depthFor (text : String) : Nat :=
  8 * text.length + 256

def load (t : ClassTable) (u : SourceUnit) : Except Raised Execution := do
  if Formation.hasNull u.name then throw { kind := "ValueError", message := "embedded null character" }
  if Formation.hasNull u.text then throw Formation.nullInText
  let statements ← (Statement.ofText u.text).mapError raisedBy
  let unit := loadedName u.name
  let (_, s) ← (executeAll (depthFor u.text) statements).run
    { unit, table := t, globals := [("__name__", .ofText unit)] }
  return s

def self : String :=
  "self"

def outside (s : Execution) (name : String) : Binding :=
  match Assoc.find? name s.globals <|> Library.common? name with
  | some (.type (.bare c)) | some (.type (.closed c _)) | some (.generic _ c _) => .class c
  | some (.type (.variable _ _)) => .variable
  | _ => .unbound name

def binding (s : Execution) (parameters : List String) (name : String) : Binding :=
  -- In the body of a function the parameters come before everything that the unit binds.
  if name = self then .self
  else if name ∈ parameters then .slot name
  else outside s name

def path? : Expression → Option (List String)
  | .attribute (.name s) a => if s = self then some [a] else none
  | .attribute e a => (path? e).map (· ++ [a])
  | _ => none

def names? (arguments : List (ArgumentKind × Expression)) : Option (List String) :=
  arguments.mapM fun
    | (.placed, .name s) => some s
    | _ => none

def unsupported : Step :=
  .fail (.other .run "unsupported statement")

mutual

def stepsOf (s : Execution) (parameters : List String) : Expression → List Step
  | .call (.attribute (.name base) "__init__") arguments =>
    match names? arguments with
    | some (first :: rest) => if first = self then [.callBase (binding s parameters base) rest] else [unsupported]
    | some [] => if base = self then [.runHook ["__init__"]] else [unsupported]
    | none => [unsupported]
  | .call e arguments =>
    match path? e, arguments with
    | some path, [] => [.runHook path]
    | _, _ => [unsupported]
  | .collection _ es => stepsOfAll s parameters es
  | .name n =>
    if n = self ∨ n ∈ parameters ∨ (Assoc.find? n s.globals <|> Library.common? n).isSome then []
    else [.fail (.other .name (unknownName n).message)]
  | .text _ | .number _ | .constant _ => []
  | _ => [unsupported]

def stepsOfAll (s : Execution) (parameters : List String) : List Expression → List Step
  | [] => []
  | e :: es => stepsOf s parameters e ++ stepsOfAll s parameters es

end

def assigned : Expression → Expression → List Step
  | .attribute (.name s) a, .name p => if s = self then [.assign a p] else [unsupported]
  | .name _, .name _ => []
  | .collection _ targets, .collection _ values =>
    (targets.zip values).flatMap fun
      | (.attribute (.name _) a, .name p) => [.assign a p]
      | _ => []
  | _, _ => [unsupported]

def steps (s : Execution) (parameters : List String) : Script.Statement → List Step
  | .evaluate e => stepsOf s parameters e
  | .assign [target] e => assigned target e
  | .choose (.compared (.attribute (.call (.name "type") [(.placed, .name _)]) "__init__")
      [("is", .attribute (.name owner) "__init__")]) [.evaluate (.call hook [])] [] =>
    match path? hook with
    | some path => [.runHookUnlessDerived (binding s parameters "type") (binding s parameters owner) path]
    | none => [unsupported]
  | .pass => []
  | _ => [unsupported]

def slotKind : Script.ParameterKind → SlotKind
  | .normal => .normal
  | .named => .named
  | .rest => .rest
  | .restNamed => .restNamed

def slot (s : Execution) (p : Script.Parameter TypeExpr) : Slot where
  name := p.name
  kind := slotKind p.kind
  hint := (p.hint.map (Hint.ofType s)).getD .absent
  default := p.default.map fun
    | .key v => v
    | t => .string t.keyText

def initializerOf (s : Execution) (f : Function) : Initializer :=
  let slots := f.parameters.tail.map (slot s)
  { name := f.name, slots, body := f.body.flatMap (steps s (slots.map (·.name))) }

def attach (t : ClassTable) (u : SourceUnit) : Except Raised ClassTable := do
  let s ← load t u
  return s.given.foldl (fun t g => t.attach g.1 (initializerOf s g.2)) t

def expectedFunction : String :=
  "add_services"

def registerAll (t : ClassTable) (u : SourceUnit) (rs : Registrations) : Except Raised Registrations := do
  let s ← load t u
  match Assoc.find? expectedFunction s.globals with
  | none => throw { kind := "KeyError", message := Text.quoted expectedFunction }
  | some m =>
    let (result, s) ← (call (depthFor u.text) m ([.services], [])).run { s with registrations := rs }
    match result with
    | .services => return s.registrations
    | m => throw (Operation.noAttribute m "build_provider")

def initializerSuffix : String :=
  ".initializer.py"

/-- All initializers attached, in the order of their units, and the services of an assembly registered next to
logging. -/
def wire (t : ClassTable) (units : List SourceUnit) (assembly : String) :
    Except Raised (ClassTable × Registrations) := do
  let t ← (units.filter fun u => initializerSuffix.toList.isSuffixOf u.name.toList).foldlM attach t
  let logging ← ((Registrations.registerLogging []).mapError ofFailure)
  match units.find? fun u => u.name = assembly ++ ".service_registrations.py" with
  | none => throw { kind := "ValueError", message := "No such generated unit" }
  | some u => return (t, ← registerAll t u logging.1)

end Wiring.Container.Linking
