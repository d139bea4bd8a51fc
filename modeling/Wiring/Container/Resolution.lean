import Wiring.Container.Cache
import Wiring.Container.Formation
import Wiring.Plan.Keyword

/-!
Resolution of services. An implementation is constructed from the types of its initializer's parameters, each of
which is a request of its own; nothing else takes part, so requests nest as initializers do.
-/

namespace Wiring.Container

namespace Resolving

/-- How other requests are answered: by provider and service. -/
abbrev Ask := Nat → TypeExpr → Resolving Value

def typeName (v : Value) : Resolving String := do
  return (← get).typeName v

def callMethod (t : ClassTable) (c : ClassHead) (name : String) (rest : List String) : Resolving Unit := do
  if !t.hasHook c name then throw (.noMember c.name name)
  match rest with
  | [] => modify (World.note (c.text ++ "." ++ name))
  | next :: _ => throw (.noMember "function" next)

def refuseHook (v : Value) : List String → Resolving Unit
  | [] => do throw (.notCallable (← typeName v))
  | next :: _ => do throw (.noMember (← typeName v) next)

def callObject (t : ClassTable) (object : Nat) : Resolving Unit := do
  match (← get).classOf? (.object object) with
  | none => refuseHook (.object object) []
  | some c => if t.hasHook c "__call__" then callMethod t c "__call__" [] else refuseHook (.object object) []

/-- Runs the hook that a path of attributes leads to. Attributes come before the methods of the class, and the
initializer of a class comes before a method of its name. -/
def runHook (t : ClassTable) (initializeOther : Value → List Value → Resolving Unit) (object : Nat) :
    List String → Resolving Unit
  | [] => return ()
  | name :: rest => do
    match (← get).objects[object]? with
    | none => throw (.noMember "object" name)
    | some o =>
      match Assoc.find? name o.attributes, o.type.head? with
      | some (.object k), _ => if rest = [] then callObject t k else runHook t initializeOther k rest
      | some v, _ => refuseHook v rest
      | none, some c =>
        if name = "__init__" ∧ rest = [] then initializeOther (.object object) [] else callMethod t c name rest
      | none, none => throw (.noMember "object" name)

def assign (t : ClassTable) (object : Nat) (target : String) (v : Value) : Resolving Unit := do
  match (← get).classOf? (.object object) with
  | some c =>
    if t.hasProperty c target then
      throw (.other .member ("property '" ++ target ++ "' of '" ++ c.name ++ "' object has no setter"))
  | none => pure ()
  modify (World.setAttribute object target v)

def plainRefusal? (value : Json) (names : List String) : Option String :=
  let sort := TypeExpr.valueSort value
  let known := match value with
    | .integer _ => ["base"]
    | _ => ["object", "encoding", "errors"]
  let most := match value with
    | .integer _ => 2
    | _ => 3
  if most < names.length then
    some (sort ++ "() takes at most " ++ toString most ++ " keyword arguments (" ++ toString names.length ++ " given)")
  else match names.find? (· ∉ known), value, names with
    | some name, _, _ => some ("'" ++ name ++ "' is an invalid keyword argument for " ++ sort ++ "()")
    | none, .integer _, _ :: _ => some "int() missing string argument"
    | _, _, _ => none

def abstractClass (c : ClassHead) (methods : List String) : Failure :=
  .other .type ("Can't instantiate abstract class " ++ c.name ++ " with abstract method" ++
    (if methods.length = 1 then " " else "s ") ++ ", ".intercalate methods)

def allocate (t : ClassTable) (type : TypeExpr) (c : ClassHead) (names : List String) : Resolving Nat := do
  let plain := t.plainValue? c
  match plain with
  | some (.array _) | none => pure ()
  | some value =>
    if let some message := plainRefusal? value names then throw (.other .type message)
  match t.missingMethods c with
  | [] => newObject type plain
  | methods => throw (abstractClass c methods)

def constructOther (t : ClassTable) (initializeOther : Value → List Value → Resolving Unit) (c : ClassHead)
    (arguments : List Value) : Resolving Unit := do
  match t.initializer? c with
  | none => throw (.other .type (c.name ++ "() takes no arguments"))
  | some _ =>
    let o ← allocate t (.bare c) c []
    initializeOther (.object o) arguments

def performOne (t : ClassTable) (ask : Ask) (initializeOther : Value → List Value → Resolving Unit) (object : Nat) :
    Effect → Resolving Unit
  | .note c => modify (World.note c.text)
  | .set target v => assign t object target v
  | .fail f => throw f
  | .resolve target (.provider p) service => do
    let v ← ask p service
    assign t object target v
  | .resolve _ v _ => do throw (.noMember (← typeName v) "resolve")
  | .hook path => runHook t initializeOther object path
  | .initializeOther v arguments => initializeOther v (.object object :: arguments)
  | .initializeAgain arguments => initializeOther (.object object) (.object object :: arguments)
  | .call v => do throw (.notCallable (← typeName v))
  | .construct c => constructOther t initializeOther c [.object object]
  | .endless => tooDeep

def performAll (t : ClassTable) (ask : Ask) (initializeOther : Value → List Value → Resolving Unit) (object : Nat) :
    List Effect → Resolving Unit
  | [] => return ()
  | e :: r => do
    performOne t ask initializeOther object e
    performAll t ask initializeOther object r

def initializeOther (t : ClassTable) (ask : Ask) : Nat → Value → List Value → Resolving Unit
  | 0, _, _ => tooDeep
  | n + 1, .object o, arguments => do
    match (← get).classOf? (.object o) with
    | none => return ()
    | some c =>
      match t.initializer? c with
      | none =>
        if arguments = [] then return ()
        else throw (.other .type (c.name ++ ".__init__() takes exactly one argument (the instance to initialize)"))
      | some (d, i) =>
        let values ← ofExcept (i.bind arguments [])
        performAll t ask (initializeOther t ask n) o (Effect.ofClass t c d i values)
  | _ + 1, .data (.array _), arguments | _ + 1, .data (.object _), arguments | _ + 1, .list _, arguments
  | _ + 1, .provider _, arguments => do
    throw (.other .type ("'" ++ (← typeName (arguments.headD default)) ++ "' object is not iterable"))
  | _ + 1, .data _, _ => return ()

def otherDepth : Nat :=
  100

def commonValues : List (ClassHead × Value) :=
  [(.builtin "int", .data (.integer 0)), (.builtin "str", .data (.string "")), (.builtin "list", .list []),
    (.builtin "NoneType", .data .null), (.builtin "bool", .data (.bool false)),
    (.builtin "float", .data (.decimal .zero)), (.builtin "dict", .data (.object []))]

def instantiate (t : ClassTable) (ask : Ask) (type : TypeExpr) (named : List (String × Value)) :
    Resolving Value := do
  match type with
  | .bare c | .closed c _ =>
    if let some v := Assoc.find? c commonValues then return v
    let o ← allocate t type c (named.map Prod.fst)
    match t.initializer? c with
    | none => return .object o
    | some (d, i) =>
      let values ← ofExcept (i.bind [] named)
      performAll t ask (initializeOther t ask otherDepth) o (Effect.ofClass t c d i values)
      return .object o
  | .written name c _ =>
    throw (.other .type ("Type " ++ name ++ " cannot be instantiated; use " ++ c.name ++ "() instead"))
  | .union _ => throw (.other .type "Cannot instantiate typing.Union")
  | .variable _ _ => throw (.notCallable "TypeVar")
  | .forward _ => throw (.notCallable "ForwardRef")
  | .choice _ => throw (.notCallable "types.UnionType")
  | .key v => throw (.notCallable (TypeExpr.valueSort v))
  | .thing x => throw (.notCallable x.sort)

def untyped (c : TypeExpr) (parameter : String) : Failure :=
  .unresolvable c (some ("Parameter '" ++ parameter ++ "' lacks type hint and has no default value."))

def askFor (ask : TypeExpr → Resolving Value) (m : List (String × TypeExpr)) (type : TypeExpr) : Resolving Value :=
  match Formation.substitute m type with
  | .error r => throw (.other .type r.message)
  | .ok type => ask type

def parameterValues (ask : TypeExpr → Resolving Value) (c : TypeExpr) (m : List (String × TypeExpr)) :
    List Slot → Resolving (List (String × Value))
  | [] => return []
  | s :: r => do
    if s.default.isSome || s.kind = .rest || s.kind = .restNamed then parameterValues ask c m r
    else match s.hint with
      | .type type =>
        let v ← mapFailure (.ofParameter c s.name) (askFor ask m type)
        return (s.name, v) :: (← parameterValues ask c m r)
      | _ => throw (untyped c s.name)

def unreadable? (slots : List Slot) : Option String :=
  match slots.find? fun s => isKeyword s.name with
  | some s => some (Text.quoted s.name ++ " is not a valid parameter name")
  | none => slots.findSome? fun s =>
    match s.hint with
    | .unreadable message => some message
    | _ => none

def slotsOf (t : ClassTable) (type : TypeExpr) : List Slot :=
  match type with
  | .union _ => [{ name := "getitem" }]
  | .variable _ _ => [{ name := "name" }]
  | .forward _ => [{ name := "arg" }]
  | type => ((type.head?.bind t.initializer?).map fun i => i.2.slots).getD []

def blamed : TypeExpr → TypeExpr
  | .bare c | .closed c _ => .bare c
  | .written _ c _ => .bare c
  | .union _ => .bare (.builtin "Union")
  | type => type

def construct (t : ClassTable) (ask : Ask) (p : Nat) (implementation : TypeExpr) : Resolving Value := do
  let c := blamed implementation
  let slots := slotsOf t implementation
  match unreadable? slots with
  | some message => throw (.unresolvable c (some ("Failed to inspect initializer: " ++ message)))
  | none =>
    let named ← parameterValues (ask p) c implementation.bindings slots
    instantiate t ask implementation named

def follow (t : ClassTable) (ask : Ask) (p : Nat) : Recipe → Resolving Value
  | .done result => ofExcept result
  | .count _ next => do follow t ask p (next (← nextCall))
  | .make type next => do follow t ask p (next (← attempt (instantiate t ask type [])))
  | .resolve service next => do follow t ask p (next (← attempt (ask p service)))
  | .resolveFrom q service next => do follow t ask p (next (← attempt (ask q service)))

def create (t : ClassTable) (ask : Ask) (p : Nat) (r : Registration) (implementation : TypeExpr) :
    Resolving Value :=
  match r.recipe with
  | some recipe => follow t ask p recipe
  | none => construct t ask p implementation

def within {α : Type} (p : Nat) (service : TypeExpr) (x : Resolving α) : Resolving α :=
  fun w =>
    match (w.tree p).path.enter service with
    | .error f => some (.error f, w)
    | .ok path =>
      (x (w.setPath p path)).map fun (r, w) => (r, w.setPath p (w.tree p).path.leave)

def supply (t : ClassTable) (ask : Ask) (p : Nat) (service : TypeExpr) : Resolving Value := do
  let w ← get
  let s := w.provider p
  if s.isClosed then throw (.scope "Cannot resolve from a closed provider")
  if service.isProvider then return .provider p
  let _ ← ofExcept service.asKey
  match s.registrations.lookup service with
  | .error fault => throw (.unresolvable service (some ((w.tree p).path.explain fault.reason)))
  | .ok (r, implementation) =>
    within p service (getOrCreate p service r.lifetime (create t ask p r implementation))

/-- A service through requests that nest no deeper than the given depth. -/
def resolve (t : ClassTable) : Nat → Ask
  | 0, _, _ => tooDeep
  | n + 1, p, service => do
    let v ← supply t (resolve t n) p service
    modify (World.deliver { provider := p, service, value := v })
    return v

end Resolving

namespace World

inductive LoggerName where
  | notALogger
  | nameless
  | name (text : String)

def loggerName (t : ClassTable) (o : Object) : LoggerName :=
  match o.type.head? with
  | none => .notALogger
  | some c =>
    if !t.derives c TypeExpr.contextLogger then .notALogger
    else match Assoc.find? "_name" o.attributes, o.type with
      | none, _ => .nameless
      | some (.data (.string s)), _ => .name s
      | some _, .closed _ (a :: _) => .name a.loggerName
      | some _, _ => .name c.name

end World

end Wiring.Container
