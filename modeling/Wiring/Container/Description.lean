import Wiring.Container.Hint
import Wiring.Container.Resolution

/-!
Containers described by documents: types, classes with their initializers, failures and recipes. A type is the
name of a class, or an object whose field says what sort of type it is.
-/

namespace Wiring.Container.Description

inductive Fault where
  | unknownName (name : String)
  | raised (raised : Raised)
  | noClass
  deriving DecidableEq

abbrev Names := List (String × ClassHead)

def predefinedNames : Names :=
  [("int", .builtin "int"), ("str", .builtin "str"), ("object", .builtin "object"),
    ("ContextLogger", TypeExpr.contextLogger), ("IServiceProvider", TypeExpr.providerInterface),
    ("ServiceProvider", TypeExpr.providerClass)]

def textOf : Json → String
  | .string s => s
  | _ => ""

def textsOf : Json → List String
  | .array items => items.map textOf
  | _ => []

def itemsOf : Json → List Json
  | .array items => items
  | _ => []

/-! Where a document mentions a type that is made of other types again, with equal ones, it means the first one. -/

abbrev Mentions := List (Json × Json)

def mentionKey? (argument : Json) : Option Json :=
  match argument.get? "key" with
  | none => some argument
  | some v => if v.unkeyable?.isSome then none else some (.object [("key", v.identity)])

def ingredients? (j : Json) : Option (List Json) :=
  match j.get? "class", j.get? "args", j.get? "optional", j.get? "list" with
  | some c, some (.array arguments), _, _ => some (c :: arguments)
  | none, _, some t, _ => some [.array [.string "optional"], t]
  | none, _, none, some t => some [.array [.string "list"], t]
  | _, _, _, _ => none

def mention (j : Json) : StateM Mentions Json := do
  match (ingredients? j).bind (·.mapM mentionKey?) with
  | none => return j
  | some keys =>
    let key := Json.array keys
    match Assoc.find? key (← get) with
    | some first => return first
    | none =>
      modify (Assoc.put key j)
      return j

def plainFields : List String :=
  ["default", "key", "value"]

mutual

def unifyFrom : Json → StateM Mentions Json
  | .object fields => do mention (.object (← unifyFields fields))
  | .array items => do return .array (← unifyAll items)
  | j => pure j

def unifyFields : List (String × Json) → StateM Mentions (List (String × Json))
  | [] => pure []
  | (name, j) :: r => do
    let j ← if name ∈ plainFields then pure j else unifyFrom j
    return (name, j) :: (← unifyFields r)

def unifyAll : List Json → StateM Mentions (List Json)
  | [] => pure []
  | j :: r => do return (← unifyFrom j) :: (← unifyAll r)

end

def unify (j : Json) : Json :=
  ((unifyFrom j).run []).1

def formed {α : Type} (r : Except Raised α) : Except Fault α :=
  r.mapError .raised

namespace Names

def head (ns : Names) (name : String) : Except Fault ClassHead :=
  match Assoc.find? name ns with
  | some h => .ok h
  | none => .error (.unknownName name)

mutual

def type (ns : Names) (scope : VariableScope) : Json → Except Fault TypeExpr
  | .string name => TypeExpr.bare <$> ns.head name
  | .object fields =>
    if Assoc.contains "class" fields then do
      let h ← ns.head (((Assoc.find? "class" fields).map textOf).getD "")
      formed (Formation.close h (← arguments ns scope fields))
    else if Assoc.contains "var" fields then
      .ok (.variable scope (((Assoc.find? "var" fields).map textOf).getD ""))
    else if Assoc.contains "optional" fields then do
      formed (Formation.orNothing (← inner ns scope "optional" fields))
    else if Assoc.contains "list" fields then do formed (Formation.listOf (← inner ns scope "list" fields))
    else .ok (.key ((Assoc.find? "key" fields).getD .null))
  | _ => .ok (.key .null)

def inner (ns : Names) (scope : VariableScope) (field : String) : List (String × Json) → Except Fault TypeExpr
  | [] => .ok (.key .null)
  | (name, j) :: r => if name = field then type ns scope j else inner ns scope field r

def arguments (ns : Names) (scope : VariableScope) : List (String × Json) → Except Fault (List TypeExpr)
  | [] => .ok []
  | (name, j) :: r => if name = "args" then allIn ns scope j else arguments ns scope r

def allIn (ns : Names) (scope : VariableScope) : Json → Except Fault (List TypeExpr)
  | .array items => types ns scope items
  | _ => .ok []

def types (ns : Names) (scope : VariableScope) : List Json → Except Fault (List TypeExpr)
  | [] => .ok []
  | j :: r => do return (← type ns scope j) :: (← types ns scope r)

end

end Names

def reasonOf (j : Json) : Option String :=
  match j.get? "message" with
  | some (.string m) => some m
  | _ => none

def failure (service : Json → Except Fault TypeExpr) (j : Json) : Except Fault Failure :=
  match textOf (j.getD "raise") with
  | "UnresolvableError" => do
    return .unresolvable (← service ((j.get? "service").getD (.string "x"))) (reasonOf j)
  | "CircularDependencyError" => do
    return .circularDependency (← (itemsOf (j.getD "chain")).mapM service)
  | "CircularInheritanceError" => return .circularInheritance (textsOf (j.getD "chain"))
  | "ScopeError" => return .scope (textOf (j.getD "message"))
  | name =>
    match Assoc.find? name FailureKind.named with
    | some kind => return .other kind (textOf (j.getD "message"))
    | none => throw (.unknownName name)

def plainFailure (j : Json) : Except Fault Failure :=
  failure (fun key => .ok (.key key)) j

def recipe (ns : Names) (scope : VariableScope) (j : Json) : Except Fault Recipe :=
  match j.get? "value", j.get? "count", j.get? "new", j.get? "pass", j.get? "resolve" with
  | some v, _, _, _, _ => return .value (.data v)
  | _, some l, _, _, _ => return .counter (textOf l)
  | _, _, some t, _, _ => Recipe.new <$> ns.type scope t
  | _, _, _, some t, _ => Recipe.pass <$> ns.type scope t
  | _, _, _, _, some ts => Recipe.resolveAll <$> ns.types scope (itemsOf ts)
  | none, none, none, none, none => Recipe.fail <$> plainFailure j

def slotKind : Json → SlotKind
  | .string "keyword" => .named
  | .string "args" => .rest
  | .string "kwargs" => .restNamed
  | _ => .normal

def hint (look : TypeExpr → Hint) (ns : Names) (owner : ClassHead) : Option Json → Except Fault Hint
  | none | some .null => .ok .absent
  | some j =>
    match j.get? "forward" with
    | some text => .ok (look (.key text))
    | none => look <$> ns.type (.initializer owner) j

def slot (look : TypeExpr → Hint) (ns : Names) (owner : ClassHead) (j : Json) : Except Fault Slot := do
  return {
    name := textOf (j.getD "name")
    hint := ← hint look ns owner (j.get? "type")
    default := j.get? "default"
    kind := slotKind (j.getD "kind") }

def initializer (look : TypeExpr → Hint) (ns : Names) (owner : ClassHead) (j : Json) :
    Except Fault Initializer := do
  let slots ← (itemsOf (j.getD "params")).mapM (slot look ns owner)
  let raised ← if (j.getD "raise") = .null then pure [] else do pure [Step.fail (← plainFailure j)]
  let resolved ← (itemsOf (j.getD "resolve")).mapM fun r => do
    return Step.resolve (textOf (r.getD "as")) (textOf (r.getD "from"))
      (← ns.type (.initializer owner) (r.getD "service"))
  return {
    name := "__init__"
    slots
    body := Step.note :: slots.map (fun s => .assign s.name s.name) ++ raised ++ resolved }

mutual

def variablesIn : Json → List String
  | .object fields => variablesInFields fields
  | .array items => variablesInAll items
  | _ => []

def variablesInFields : List (String × Json) → List String
  | [] => []
  | (name, j) :: r =>
    (match name, j with
      | "var", .string v => [v]
      | "key", _ => []
      | _, j => variablesIn j) ++ variablesInFields r

def variablesInAll : List Json → List String
  | [] => []
  | j :: r => variablesIn j ++ variablesInAll r

end

def classHead (j : Json) : ClassHead :=
  let name := textOf (j.getD "name")
  { module := ((j.get? "module").map textOf).getD "app"
    qualifiedName := ((j.get? "qualname").map textOf).getD name
    name
    parameters :=
      match textsOf (j.getD "params") with
      | [] => (variablesIn (j.getD "bases")).eraseDups
      | ps => ps }

def baseHeads (isGeneric : ClassHead → Bool) (listsParameters : Bool) : List TypeExpr → Except Fault (List ClassHead)
  -- The common base of generic classes comes last, unless another class brings it in.
  | [] => .ok (if listsParameters then [TypeExpr.generic] else [])
  | .bare c :: r | .closed c _ :: r => do return c :: (← baseHeads isGeneric listsParameters r)
  | .written _ c _ :: r => do
    let others ← baseHeads isGeneric listsParameters r
    let later := r.any fun
      | .bare d => isGeneric d
      | _ => true
    return c :: (if later || listsParameters then [] else [TypeExpr.generic]) ++ others
  | _ => .error .noClass

abbrev Bases := List (ClassHead × Bool × List TypeExpr)

def lineage (bs : Bases) : Nat → ClassHead → Except Fault (List ClassHead)
  | 0, _ => .error .noClass
  | depth + 1, c =>
    match Assoc.find? c bs with
    | none => .ok (ClassTable.predefined.lineage c)
    | some (listsParameters, types) => do
      let isGeneric (d : ClassHead) : Bool :=
        match lineage bs depth d with
        | .ok l => TypeExpr.generic ∈ l
        | .error _ => false
      let heads ← baseHeads isGeneric listsParameters types
      let heads := if heads = [] then [TypeExpr.object] else heads
      let orders ← heads.mapM (lineage bs depth)
      match Lineage.ofBases c heads orders with
      | none => throw .noClass
      | some l =>
        let plain := l.filter fun d => (Assoc.find? d ClassTable.plainValues).isSome
        if plain.length ≤ 1 then return l else throw .noClass

def hasSoundParameters (j : Json) : Bool :=
  let listed := textsOf (j.getD "params")
  listed.Nodup && (listed.isEmpty || (variablesIn (j.getD "bases")).all (· ∈ listed))

def basesOf (ns : Names) (j : Json) : Except Fault (ClassHead × Bool × List TypeExpr) := do
  let head := classHead j
  if !hasSoundParameters j then throw .noClass
  let types ← (itemsOf (j.getD "bases")).mapM (ns.type (.owned head))
  return (head, !(textsOf (j.getD "params")).isEmpty, types)

def runtimeClass (look : TypeExpr → Hint) (ns : Names) (bs : Bases) (j : Json) : Except Fault RuntimeClass := do
  let head := classHead j
  let lineage ← lineage bs (bs.length + 1) head
  let initializer ← if j.getD "init" = .null then pure none else some <$> initializer look ns head (j.getD "init")
  return { head, lineage, hooks := textsOf (j.getD "hooks"), initializer }

def namesOf (classes : List Json) : Names :=
  classes.foldl (fun m c => Assoc.put (classHead c).name (classHead c) m) predefinedNames

def surroundings (ns : Names) (table : ClassTable) : Execution where
  table := table
  globals := ns.map fun n => (n.1, .type (.bare n.2))

def classTable (classes : List Json) : Except Fault ClassTable := do
  let names := namesOf classes
  let bases ← classes.mapM (basesOf names)
  let withHints (look : TypeExpr → Hint) : Except Fault ClassTable := do
    return (← classes.mapM (runtimeClass look names bases)) ++ ClassTable.predefined
  let table ← withHints fun _ => .absent
  withHints (Hint.ofType (surroundings names table))

/-! What can be seen of a value. Objects are numbered in the order in which they are first shown; one that was
shown before is only its number. -/

mutual

def data : Json → Json
  | .array items => .object [("list", .array (dataAll items))]
  | j => .object [("value", j)]

def dataAll : List Json → List Json
  | [] => []
  | j :: r => data j :: dataAll r

end

inductive ViewFault where
  | noAttributes
  | nameless
  deriving DecidableEq

def isShown (name : String) : Bool :=
  !(['_', '_'].isPrefixOf name.toList)

def viewObject {m : Type → Type} [Monad m] [MonadExcept ViewFault m] (t : ClassTable) (o : Object)
    (start : List (String × Json)) (display : Value → m Json) : m Json := do
  if o.type = .bare TypeExpr.object then throw .noAttributes
  match World.loggerName t o with
  | .nameless => throw .nameless
  | .name l => return .object (start ++ [("logger", .string l)])
  | .notALogger =>
    let shown := o.attributes.filter fun a => isShown a.1
    let attributes ← shown.mapM fun a => do return (a.1, ← display a.2)
    return .object (start ++ [("attrs", .object attributes)])

def view (t : ClassTable) (w : World) (providerName : Nat → Json) :
    Nat → Value → ExceptT ViewFault (StateM (List Nat)) Json
  -- Objects may hold each other, so the view goes no deeper than the given depth.
  | 0, _ => return .null
  | n + 1, v => do
    match v with
    | .data j => return data j
    | .list items => return .object [("list", .array (← items.mapM (view t w providerName n)))]
    | .provider p => return .object [("provider", providerName p)]
    | .object k =>
      let shown ← get
      match shown.findIdx? (· = k), w.objects[k]? with
      | some i, _ => return .object [("id", .ofNat (i + 1))]
      | none, none => return .null
      | none, some o =>
        match o.plain with
        | some j => return data j
        | none =>
          set (shown ++ [k])
          viewObject t o [("id", .ofNat (shown.length + 1)), ("class", .string o.type.text)]
            (view t w providerName n)

def viewDepth : Nat :=
  10000

def registration (r : Registration) : Json :=
  .object [("service", .string r.service.text), ("implementation", .string r.implementation.text),
    ("lifetime", .string (Named.text r.lifetime)), ("open", .bool r.isOpen),
    ("parameters", .strings (r.openParameters.map ("~" ++ ·))), ("factory", .bool r.recipe.isSome)]

end Wiring.Container.Description
