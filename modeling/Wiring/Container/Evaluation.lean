import Wiring.Container.Arguments
import Wiring.Container.Method
import Wiring.Container.Services

/-!
How expressions of scripts are evaluated. Types are the values that matter here: what calls of them come to is known
as far as they fail.
-/

namespace Wiring.Container

/-- The state of a script that runs: the names that it has bound, in itself and in the function that it is in, what it
has registered, and the initializers that it has given to classes. -/
structure Execution where
  unit : String := ""
  table : ClassTable := []
  globals : List (String × Meaning) := []
  locals : Option (List (String × Meaning)) := none
  registrations : Registrations := []
  given : List (ClassHead × Function) := []

abbrev Executing := StateT Execution (Except Raised)

namespace Executing

open Calling (Arguments)

def raise {α : Type} (r : Raised) : Executing α :=
  fun _ => .error r

def ofExcept {α : Type} (r : Except Raised α) : Executing α :=
  fun s => r.map (·, s)

def ofFailure (f : Failure) : Raised where
  kind := f.kind
  message := f.text

def unknownName (name : String) : Raised where
  kind := "NameError"
  message := "name '" ++ name ++ "' is not defined"

def meaning (name : String) : Executing Meaning := do
  let s ← get
  match s.locals.bind (Assoc.find? name) <|> Assoc.find? name s.globals <|> Library.common? name with
  | some m => return m
  | none => raise (unknownName name)

def bindName (name : String) (m : Meaning) : Executing Unit :=
  modify fun s =>
    match s.locals with
    | some locals => { s with locals := some (Assoc.put name m locals) }
    | none => { s with globals := Assoc.put name m s.globals }

def within {α : Type} (locals : List (String × Meaning)) (x : Executing α) : Executing α := do
  let outer := (← get).locals
  modify fun s => { s with locals := some locals }
  let a ← x
  modify fun s => { s with locals := outer }
  return a

def ofNumber : Script.Number → Meaning
  | .whole n => .type (.key (.integer n))
  | .decimal d => .type (.key (.decimal d))
  | .imaginary d => .thing "complex" none (d.text ++ "j")

def ofConstant (s : String) : Meaning :=
  match s with
  | "True" => .ofBool true
  | "False" => .ofBool false
  | "..." => .type TypeExpr.ellipsis
  | _ => .none

def notCallable (m : Meaning) : Raised :=
  .type ("'" ++ m.sort ++ "' object is not callable")

def unexpected (function name : String) : Raised :=
  .type (function ++ "() got an unexpected keyword argument '" ++ name ++ "'")

def toBoth (function name : String) : Raised :=
  .type (function ++ "() got multiple values for argument '" ++ name ++ "'")

def namesFault? (function : String) (parameters : List String) (takesAny : Bool) (placed : Nat)
    (named : List (String × Meaning)) : Option Raised :=
  named.findSome? fun a =>
    if a.1 ∈ parameters.take placed then some (toBoth function a.1)
    else if a.1 ∉ parameters ∧ !takesAny then some (unexpected function a.1)
    else none

def checkCall (i : Initializer) (arguments : Arguments) : Except Raised Unit := do
  let names := (i.slots.filter fun s => s.kind = .normal || s.kind = .named).map (·.name)
  let takesAny := i.slots.any (·.kind = .restNamed)
  if let some r := namesFault? i.name names takesAny arguments.1.length arguments.2 then throw r
  let unit : Value := .data .null
  let _ ← (i.bind (arguments.1.map fun _ => unit) (arguments.2.map fun a => (a.1, unit))).mapError ofFailure
  match i.body.findSome? fun
    | .fail f => some f
    | _ => none with
  | some f => throw (ofFailure f)
  | none => return ()

def instanceOf (c : ClassHead) : Meaning :=
  .thing c.name none (Calling.object c.text)

def isRaisable (c : ClassHead) : Bool :=
  c.module = ClassHead.builtinModule &&
    (c.name ∈ ["BaseExceptionGroup", "ExceptionGroup", "GeneratorExit", "KeyboardInterrupt", "StopAsyncIteration",
      "StopIteration", "SystemExit"] ||
    ["Error", "Exception", "Warning"].any fun s => c.name.endsWith s)

def raisable (c : ClassHead) (ms : List Meaning) : Meaning :=
  .thing c.name none (c.name ++ "(" ++ ", ".intercalate (ms.map Meaning.text) ++ ")")

def instantiate (c : ClassHead) (arguments : Arguments) : Executing Meaning := do
  let t := (← get).table
  match t.find? c, t.initializer? c with
  | none, none => return instanceOf c
  | _, some (_, i) =>
    ofExcept (checkCall i arguments)
    return instanceOf c
  | some _, none =>
    if arguments.1.isEmpty && arguments.2.isEmpty then return instanceOf c
    else raise (.type (c.name ++ "() takes no arguments"))

def typeVariable : ClassHead :=
  TypeExpr.formHead "TypeVar"

def newVariable (arguments : Arguments) : Executing Meaning := do
  let some name := arguments.1.head? <|> Assoc.find? "name" arguments.2
    | raise (.type "TypeVar.__init__() missing 1 required positional argument: 'name'")
  let constraints := arguments.1.tail
  match Assoc.find? "bound" arguments.2 with
  | some b =>
    if b.isTrue then discard (ofExcept (Formation.check "Bound must be a type." false b.asType))
    if b.isTrue && !constraints.isEmpty then raise (.type "Constraints cannot be combined with bound=...")
  | none => pure ()
  if constraints.length = 1 then raise (.type "A single constraint is not allowed")
  return .type (.variable (.unit (← get).unit) name.shown)

def register (lifetime : Lifetime) (arguments : Arguments) : Executing Meaning := do
  let names := ["service", "implementation"]
  if let some r := namesFault? "add" names false arguments.1.length arguments.2 then raise r
  let argument (i : Nat) (name : String) : Option Meaning := arguments.1[i]? <|> Assoc.find? name arguments.2
  if names.length < arguments.1.length then raise (.type "too many arguments")
  let some service := argument 0 "service" | raise (.type "missing argument")
  let implementation := (argument 1 "implementation").map Meaning.asType
  match (← get).registrations.register lifetime service.asType implementation with
  | .error f => raise (ofFailure f)
  | .ok (registrations, _) =>
    modify fun s => { s with registrations }
    return .services

def callMethod (name : String) (arguments : Arguments) : Executing Meaning :=
  match name with
  | "add_scoped" => register .scoped arguments
  | "add_singleton" => register .singleton arguments
  | _ => register .transient arguments

def callClass (c : ClassHead) (arguments : Arguments) : Executing Meaning := do
  if c = typeVariable then newVariable arguments
  else match if c.module = ClassHead.builtinModule then Calling.ofClass? c.name arguments else none with
  | some r => ofExcept r
  | none => if isRaisable c then return raisable c arguments.1 else instantiate c arguments

def cannotInstantiate (shown : String) : Raised :=
  .type ("Cannot instantiate " ++ shown)

def callThing (x : Thing) (arguments : Arguments) : Executing Meaning := do
  -- A method that is not bound to a value takes the value first.
  let name := x.name.getD ""
  if x.sort ∈ [Meaning.functionSort, Meaning.builtinSort] then
    ofExcept (Calling.ofFunction (← get).table name arguments)
  else if x.sort = "method_descriptor" then
    match arguments.1 with
    | m :: ms => ofExcept (Method.call m name (ms, arguments.2))
    | [] => raise (.type ("unbound method " ++ name ++ "() needs an argument"))
  else raise (notCallable (.type (.thing x)))

def callOther (m : Meaning) (arguments : Arguments) : Executing Meaning :=
  match m with
  | .type (.bare c) | .type (.closed c _) | .generic none c _ => callClass c arguments
  | .generic (some name) c _ | .type (.written name c _) =>
    raise (.type ("Type " ++ name ++ " cannot be instantiated; use " ++ c.name ++ "() instead"))
  | .type (.union _) => raise (cannotInstantiate "typing.Union")
  | .form _ => raise (cannotInstantiate m.text)
  | .method name => callMethod name arguments
  | .bound (.type (.bare c)) _ => do
    return .items .list (((← get).table.lineage c).map fun d => .type (.bare d))
  | .bound subject name => ofExcept (Method.call subject name arguments)
  | .type (.thing x) => callThing x arguments
  | m => raise (notCallable m)

def valuesOf (f : Function) (arguments : Arguments) : Except Raised (List (String × Meaning)) := do
  let placed := f.parameters.filter (·.kind = .normal)
  let names := (f.parameters.filter fun p => p.kind = .normal || p.kind = .named).map (·.name)
  let takesAny := f.parameters.any (·.kind = .restNamed)
  if let some r := namesFault? f.name names takesAny arguments.1.length arguments.2 then throw r
  if placed.length < arguments.1.length ∧ !f.parameters.any (·.kind = .rest) then
    throw (.type (f.name ++ "() takes " ++ toString placed.length ++ " positional arguments but " ++
      toString arguments.1.length ++ " were given"))
  let byPlace := (placed.map (·.name)).zip arguments.1
  f.parameters.mapM fun p =>
    match p.kind with
    | .rest => .ok (p.name, .items .tuple (arguments.1.drop placed.length))
    | .restNamed =>
      let others := arguments.2.filter fun a => a.1 ∉ names
      .ok (p.name, .dictionary (others.map fun a => .ofText a.1) (others.map Prod.snd))
    | _ =>
      match Assoc.find? p.name byPlace <|> Assoc.find? p.name arguments.2 <|> p.default.map .type with
      | some m => .ok (p.name, m)
      | none => .error (.type (f.name ++ "() missing 1 required positional argument: '" ++ p.name ++ "'"))

end Executing

end Wiring.Container
