import Wiring.Container.Class

/-!
How the arguments of a call find the parameters of an initializer, and what is wrong with a call whose arguments
do not.
-/

namespace Wiring.Container

namespace Initializer

def positional (i : Initializer) : List Slot :=
  i.slots.filter (·.kind = .normal)

def hasRest (i : Initializer) : Bool :=
  i.slots.any (·.kind = .rest)

def listed : List String → String
  | [] => ""
  | [a] => a
  | [a, b] => a ++ " and " ++ b
  | a :: r => ", ".intercalate (a :: r.dropLast) ++ ", and " ++ r.getLastD ""

def quotedNames (slots : List Slot) : String :=
  listed (slots.map fun s => "'" ++ s.name ++ "'")

def plural (n : Nat) (noun : String) : String :=
  if n = 1 then noun else noun ++ "s"

def tooMany (i : Initializer) (given : Nat) : Failure :=
  let taken := i.positional.length + 1
  let required := (i.positional.filter (·.default.isNone)).length + 1
  let range := if required = taken then toString taken else "from " ++ toString required ++ " to " ++ toString taken
  .other .type (i.name ++ "() takes " ++ range ++ " positional " ++ plural taken "argument" ++ " but " ++
    toString (given + 1) ++ (if given = 0 then " was" else " were") ++ " given")

def missing (i : Initializer) (sort : String) (slots : List Slot) : Failure :=
  .other .type (i.name ++ "() missing " ++ toString slots.length ++ " required " ++ sort ++ " " ++
    plural slots.length "argument" ++ ": " ++ quotedNames slots)

def valueOf? (placed named : List (String × Value)) (rest : List Value) (s : Slot) : Option Value :=
  match s.kind with
  | .rest => some (.list rest)
  | .restNamed => some (.data (.object []))
  | _ =>
    match Assoc.find? s.name placed, Assoc.find? s.name named, s.default with
    | some v, _, _ => some v
    | none, some v, _ => some v
    | none, none, some d => some (.data d)
    | none, none, none => none

def bind (i : Initializer) (arguments : List Value) (named : List (String × Value)) :
    Except Failure (List (String × Value)) :=
  let placed := (i.positional.map (·.name)).zip arguments
  let rest := arguments.drop i.positional.length
  if !rest.isEmpty && !i.hasRest then .error (i.tooMany arguments.length)
  else
    let absent := i.slots.filter fun s => (valueOf? placed named rest s).isNone
    match absent.filter (·.kind = .normal), absent with
    | s :: r, _ => .error (i.missing "positional" (s :: r))
    | [], s :: r => .error (i.missing "keyword-only" (s :: r))
    | [], [] => .ok (i.slots.filterMap fun s => (valueOf? placed named rest s).map fun v => (s.name, v))

end Initializer

end Wiring.Container
