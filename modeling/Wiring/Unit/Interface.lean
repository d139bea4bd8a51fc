import Wiring.Plan
import Wiring.Unit.Text

/-!
Units that define an abstract class for an interface.
-/

namespace Wiring

inductive InterfaceMember where
  | method (name : String) (parameters : List (String × Term × Option String)) (returns : Term)
  | property (name : String) (returns : Term) (writable : Bool)
  | bare (name : String) (type : Term)

namespace InterfaceMember

def parameterText (p : String × Term × Option String) : String :=
  let shown := p.1 ++ ": " ++ p.2.1.text
  match p.2.2 with
  | none => shown
  | some value => shown ++ " = " ++ value

def setterLines (name : String) (returns : Term) : List String :=
  ["", "    @" ++ name ++ ".setter", "    @abstractmethod",
    "    def " ++ name ++ "(self, value: " ++ returns.text ++ ") -> None:", "        ..."]

def lines : InterfaceMember → List String
  | method name parameters returns =>
    ["    @abstractmethod",
      "    def " ++ name ++ "(" ++ ", ".intercalate ("self" :: parameters.map parameterText) ++ ") -> " ++
        returns.text ++ ":",
      "        ..."]
  | property name returns writable =>
    ["    @property", "    @abstractmethod", "    def " ++ name ++ "(self) -> " ++ returns.text ++ ":",
      "        ..."] ++
      (if writable then setterLines name returns else [])
  | bare name type => ["    " ++ name ++ ": " ++ type.text]

def text (m : InterfaceMember) : String :=
  let shown := "\n".intercalate m.lines
  String.ofList (shown.toList.reverse.dropWhile (· = '\n')).reverse

end InterfaceMember

structure InterfaceUnit where
  name : String
  package : String
  imports : List (List ImportStatement)
  typeVariables : List TypeVariable
  className : String
  parents : List Term
  source : String
  members : List InterfaceMember

namespace InterfaceUnit

def renderParameters : List Parameter → StateM ImportTable (List (String × Term × Option String))
  | [] => return []
  | p :: ps => do
    let type ← ImportTable.render p.type
    return (p.name, type, p.default) :: (← renderParameters ps)

def renderMember (m : MemberDeclaration) : StateM ImportTable InterfaceMember := do
  let returns ← ImportTable.render m.type
  match m.kind with
  | .method =>
    let _ ← ImportTable.require "abc" "abstractmethod"
    return .method m.name (← renderParameters m.parameters) returns
  | .property =>
    let _ ← ImportTable.require "abc" "abstractmethod"
    return .property m.name returns m.isWritable
  | _ => return .bare m.name returns

def renderMembers : List MemberDeclaration → StateM ImportTable (List InterfaceMember)
  | [] => return []
  | m :: ms => do
    let shown ← renderMember m
    return shown :: (← renderMembers ms)

def renderParents (plan : InterfacePlan) (abc : String) : StateM ImportTable (List Term) := do
  let parents ← ImportTable.renderAll plan.parents
  match plan.ref.typeParameters with
  | [] => return parents ++ [.mk abc []]
  | parameters =>
    let generic ← ImportTable.require "typing" "Generic"
    return parents ++ [.mk generic (← ImportTable.renderAll parameters), .mk abc []]

def build (plan : InterfacePlan) : StateM ImportTable InterfaceUnit := do
  let abc ← ImportTable.require "abc" "ABC"
  let parents ← renderParents plan abc
  let members ← renderMembers plan.members
  let typeVariables ← ImportTable.variableList
  let imports ← ImportTable.importGroups
  return {
    name := plan.ref.fullName ++ ".interface.py"
    package := plan.ref.package
    imports, typeVariables
    className := plan.ref.name
    parents
    source := plan.source.name
    members }

def ofPlan (plan : InterfacePlan) : InterfaceUnit :=
  ((build plan).run (ImportTable.create [plan.ref] plan.bounds)).1

def text (u : InterfaceUnit) : String :=
  Unit.lines (Unit.preamble u.imports u.typeVariables ++
    ["class " ++ u.className ++ "(" ++ ", ".intercalate (u.parents.map Term.text) ++ "):",
      "    \"\"\"Interface generated from " ++ u.source ++ ".\"\"\""] ++
    u.members.flatMap fun m => ["", m.text])

def toSource (u : InterfaceUnit) : SourceUnit where
  name := u.name
  package := u.package
  text := u.text

end InterfaceUnit

end Wiring
