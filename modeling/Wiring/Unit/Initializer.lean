import Wiring.Plan
import Wiring.Unit.Text

/-!
Units that attach an initializer to a class: first a statement for each member of its own, then a call of the
base's initializer, then the completion hook.
-/

namespace Wiring

/-- The attribute for a member as seen from outside the class body: two leading underscores without two trailing
ones bring in the name of the class. -/
def mangled (owner member : String) : String :=
  let cs := member.toList
  if ['_', '_'].isPrefixOf cs && !(['_', '_'].isSuffixOf cs) then
    "_" ++ String.ofList (owner.toList.dropWhile (· = '_')) ++ member
  else member

inductive Statement where
  | assign (target parameter : String)
  | callBase (base : String) (forwarded : List String)
  | runHook (hook : String)
  | runHookUnlessDerived (owner hook : String)
  deriving DecidableEq

namespace Statement

def lines : Statement → List String
  | assign target parameter => ["self." ++ target ++ " = " ++ parameter]
  | callBase base forwarded => [base ++ ".__init__(" ++ ", ".intercalate ("self" :: forwarded) ++ ")"]
  | runHook hook => ["self." ++ hook ++ "()"]
  | runHookUnlessDerived owner hook =>
    ["if type(self).__init__ is " ++ owner ++ ".__init__:", "    self." ++ hook ++ "()"]

end Statement

structure InitializerUnit where
  name : String
  package : String
  imports : List (List ImportStatement)
  typeVariables : List TypeVariable
  owner : String
  parameters : List (String × Term)
  body : List Statement

namespace InitializerUnit

def functionName : String :=
  "_initialize"

def assignments (plan : InitializerPlan) : List Statement :=
  plan.assignments.map fun a => .assign (mangled plan.owner.name a.1) a.2

def hookStatements (plan : InitializerPlan) (owner : String) : List Statement :=
  match plan.completionHook.filter (· ≠ "") with
  | none => []
  | some hook => if plan.guardCompletion then [.runHookUnlessDerived owner hook] else [.runHook hook]

def renderParameters : List InitializerParameter → StateM ImportTable (List (String × Term))
  | [] => return []
  | p :: ps => do
    let type ← ImportTable.render p.type
    return (p.name, type) :: (← renderParameters ps)

def build (plan : InitializerPlan) : StateM ImportTable InitializerUnit := do
  let owner ← ImportTable.name plan.owner
  let parameters ← renderParameters plan.parameters
  let baseCall ← match plan.base with
    | none => pure []
    | some base => do
      let shown ← ImportTable.name base
      pure [Statement.callBase shown plan.forwarded]
  let typeVariables ← ImportTable.variableList
  let imports ← ImportTable.importGroups
  return {
    name := plan.owner.fullName ++ ".initializer.py"
    package := plan.owner.package
    imports, typeVariables, owner, parameters
    body := assignments plan ++ baseCall ++ hookStatements plan owner }

def ofPlan (plan : InitializerPlan) : InitializerUnit :=
  ((build plan).run (ImportTable.create [] plan.bounds)).1

def bodyLines (u : InitializerUnit) : List String :=
  match u.body.flatMap Statement.lines with
  | [] => ["pass"]
  | ls => ls

def signature (u : InitializerUnit) : String :=
  ", ".intercalate ("self" :: u.parameters.map fun p => p.1 ++ ": " ++ p.2.text)

def text (u : InitializerUnit) : String :=
  Unit.lines (Unit.preamble u.imports u.typeVariables ++
    ["def " ++ functionName ++ "(" ++ u.signature ++ ") -> None:"] ++
    u.bodyLines.map ("    " ++ ·) ++
    ["", "", u.owner ++ ".__init__ = " ++ functionName])

def toSource (u : InitializerUnit) : SourceUnit where
  name := u.name
  package := u.package
  text := u.text

end InitializerUnit

end Wiring
