import Wiring.Declaration

/-!
The names that a generated unit uses. The first type under a simple name keeps it; a later one of another package
goes under its package and name. Type parameters and builtins are used as they are, and so are pending references
and the types that the unit itself defines.
-/

namespace Wiring

inductive Term where
  | mk (name : String) (arguments : List Term)

namespace Term

def name : Term → String
  | mk n _ => n

mutual

def text : Term → String
  | mk n as =>
    match texts as with
    | [] => n
    | shown => n ++ "[" ++ ", ".intercalate shown ++ "]"

def texts : List Term → List String
  | [] => []
  | a :: as => text a :: texts as

end

end Term

structure ImportTable where
  aliases : List (TypeKey × String) := []
  taken : List (String × TypeKey) := []
  defined : List TypeKey := []
  typeVariables : List String := []
  bounds : List (String × TypeRef) := []
  deriving DecidableEq

structure ImportStatement where
  package : String
  names : List (String × String)
  deriving DecidableEq

structure TypeVariable where
  name : String
  bound : Option Term

namespace ImportTable

def create (defined : List TypeRef) (bounds : List TypeBound) : ImportTable where
  taken := Assoc.ofPairs (defined.map fun r => (r.name, r.key))
  defined := defined.map (·.key)
  bounds := Assoc.ofPairs (bounds.map fun b => (b.parameter, b.bound))

def qualifiedAlias (r : TypeRef) : String :=
  String.ofList (r.package.toList.map fun c => if c = '.' then '_' else c) ++ "_" ++ r.name

def freeAlias (t : ImportTable) (r : TypeRef) : String :=
  match Assoc.find? r.name t.taken with
  | none => r.name
  | some k => if k = r.key then r.name else qualifiedAlias r

def nameOf (t : ImportTable) (r : TypeRef) : String × ImportTable :=
  if r.isTypeParameter then
    (r.name, if r.name ∈ t.typeVariables then t else { t with typeVariables := t.typeVariables ++ [r.name] })
  else if r.isBuiltin ∨ r.isPending ∨ r.key ∈ t.defined then (r.name, t)
  else
    match Assoc.find? r.key t.aliases with
    | some a => (a, t)
    | none =>
      let a := t.freeAlias r
      (a, { t with aliases := Assoc.put r.key a t.aliases, taken := Assoc.put a r.key t.taken })

def name (r : TypeRef) : StateM ImportTable String :=
  fun t => t.nameOf r

def require (package name : String) : StateM ImportTable String :=
  ImportTable.name { package, name }

mutual

def render : TypeRef → StateM ImportTable Term
  | ⟨p, n, as, v⟩ => do
    let shown ← name ⟨p, n, as, v⟩
    return .mk shown (← renderAll as)

def renderAll : List TypeRef → StateM ImportTable (List Term)
  | [] => return []
  | a :: as => do
    let shown ← render a
    return shown :: (← renderAll as)

end

mutual

def parameterCount : TypeRef → Nat
  | ⟨_, _, as, v⟩ => (if v then 1 else 0) + parameterCounts as

def parameterCounts : List TypeRef → Nat
  | [] => 0
  | a :: as => parameterCount a + parameterCounts as

end

def variablesFrom : (steps index : Nat) → StateM ImportTable (List TypeVariable)
  | 0, _ => return []
  | steps + 1, index => do
    match (← get).typeVariables[index]? with
    | none => return []
    | some name =>
      let bound ← match Assoc.find? name (← get).bounds with
        | none => pure none
        | some b => some <$> render b
      return { name, bound } :: (← variablesFrom steps (index + 1))

/-- The type variables used so far and those that their bounds bring in. There are no more than those used and
those that occur in bounds. -/
def variableList : StateM ImportTable (List TypeVariable) := do
  let t ← get
  variablesFrom (t.typeVariables.length + parameterCounts (t.bounds.map Prod.snd) + 1) 0

def standardPackages : List String :=
  ["abc", "typing"]

def entryText (e : String × String) : String :=
  if e.2 = e.1 then e.1 else e.1 ++ " as " ++ e.2

def sortTexts {α : Type} (key : α → String) (as : List α) : List α :=
  as.mergeSort fun a b => decide (key a ≤ key b)

def statements (t : ImportTable) : List ImportStatement :=
  let packages := sortTexts id (t.aliases.map (·.1.1)).eraseDups
  packages.map fun p =>
    { package := p
      names := sortTexts entryText ((t.aliases.filter (·.1.1 = p)).map fun a => (a.1.2, a.2)) }

/-- Import statements by group, the standard packages first; empty groups are left out. Using a type variable takes
one more name. -/
def importGroups : StateM ImportTable (List (List ImportStatement)) := do
  if !(← get).typeVariables.isEmpty then
    let _ ← require "typing" "TypeVar"
  let all := (← get).statements
  let standard := all.filter (·.package ∈ standardPackages)
  let others := all.filter (·.package ∉ standardPackages)
  return [standard, others].filter (!·.isEmpty)

end ImportTable

namespace ImportStatement

def text (s : ImportStatement) : String :=
  "from " ++ s.package ++ " import " ++ ", ".intercalate (s.names.map ImportTable.entryText)

end ImportStatement

def importLines (groups : List (List ImportStatement)) : List String :=
  groups.flatMap fun g => "" :: g.map ImportStatement.text

def TypeVariable.text (v : TypeVariable) : String :=
  match v.bound with
  | none => v.name ++ " = TypeVar(\"" ++ v.name ++ "\")"
  | some b => v.name ++ " = TypeVar(\"" ++ v.name ++ "\", bound=" ++ b.text ++ ")"

end Wiring
