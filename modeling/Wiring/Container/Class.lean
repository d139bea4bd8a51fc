import Wiring.Container.Lineage
import Wiring.Container.Value

/-!
Classes and their initializers. An initializer is straight-line: it gives attributes to the object, may call the
initializer of a base, ask a provider or fail, and may run a completion hook. What a class lacks it has from the
first class of its lineage that has it.
-/

namespace Wiring.Container

inductive SlotKind where
  | normal
  | named
  | rest
  | restNamed
  deriving DecidableEq

inductive Hint where
  | absent
  | type (type : TypeExpr)
  | unreadable (message : String)
  deriving DecidableEq

structure Slot where
  name : String
  hint : Hint := .absent
  default : Option Json := none
  kind : SlotKind := .normal
  deriving DecidableEq

inductive Binding where
  | self
  | class (c : ClassHead)
  | variable
  | slot (name : String)
  | unbound (name : String)
  deriving DecidableEq

inductive Step where
  -- A hook may be reached through attributes. What is `asked` for the class of the object is a name as well.
  | note
  | assign (target slot : String)
  | store (target : String) (value : Json)
  | fail (failure : Failure)
  | resolve (target provider : String) (service : TypeExpr)
  | callBase (base : Binding) (forwarded : List String)
  | runHook (path : List String)
  | runHookUnlessDerived (asked owner : Binding) (path : List String)

structure Initializer where
  name : String
  slots : List Slot
  body : List Step

/-- `openMethods` are named but left to derived classes, `properties` are attributes that cannot be given. The class
itself is the first of its lineage. -/
structure RuntimeClass where
  head : ClassHead
  lineage : List ClassHead
  hooks : List String := []
  openMethods : List String := []
  properties : List String := []
  initializer : Option Initializer := none

abbrev ClassTable := List RuntimeClass

namespace ClassTable

def find? (t : ClassTable) (c : ClassHead) : Option RuntimeClass :=
  List.find? (fun k => k.head = c) t

def lineage (t : ClassTable) (c : ClassHead) : List ClassHead :=
  match t.find? c with
  | some k => k.lineage
  | none => if c = TypeExpr.object then [c] else [c, TypeExpr.object]

def ancestors (t : ClassTable) (c : ClassHead) : List RuntimeClass :=
  (t.lineage c).filterMap t.find?

def derives (t : ClassTable) (c d : ClassHead) : Bool :=
  d ∈ t.lineage c

def attach (t : ClassTable) (c : ClassHead) (i : Initializer) : ClassTable :=
  t.map fun k => if k.head = c then { k with initializer := some i } else k

def initializer? (t : ClassTable) (c : ClassHead) : Option (ClassHead × Initializer) :=
  (t.ancestors c).findSome? fun k => k.initializer.map fun i => (k.head, i)

def hasHook (t : ClassTable) (c : ClassHead) (hook : String) : Bool :=
  (t.ancestors c).any fun k => hook ∈ k.hooks

def holder? (t : ClassTable) (c : ClassHead) (member : String) : Option RuntimeClass :=
  (t.ancestors c).find? fun k => member ∈ k.hooks ++ k.openMethods ++ k.properties

def missingMethods (t : ClassTable) (c : ClassHead) : List String :=
  ((t.ancestors c).flatMap (·.openMethods)).filter fun m => (t.holder? c m).any fun k => m ∈ k.openMethods

def hasProperty (t : ClassTable) (c : ClassHead) (name : String) : Bool :=
  (t.holder? c name).any fun k => name ∈ k.properties

def plainValues : List (ClassHead × Json) :=
  [(.builtin "int", .integer 0), (.builtin "str", .string ""), (.builtin "list", .array [])]

def plainValue? (t : ClassTable) (c : ClassHead) : Option Json :=
  (t.lineage c).findSome? fun d => Assoc.find? d plainValues

def abc (name : String) : ClassHead where
  module := "collections.abc"
  qualifiedName := name
  name := name

def providerMethods : List String :=
  ["close", "create_scope", "resolve"]

def predefined : ClassTable :=
  let optional (t : ClassHead) : Hint := .type (.orNothing (.bare t))
  let base : ClassHead := { module := "abc", qualifiedName := "ABC", name := "ABC" }
  let descriptor : ClassHead := {
    module := "miraveja_digen.infrastructure.runtime.descriptors"
    qualifiedName := "ServiceDescriptor"
    name := "ServiceDescriptor" }
  [{ head := TypeExpr.contextLogger
     lineage := [TypeExpr.contextLogger, TypeExpr.generic, TypeExpr.object]
     properties := ["name", "logger"]
     initializer := some {
       name := "ContextLogger.__init__"
       slots := [{ name := "name", hint := optional (.builtin "str"), default := some .null }]
       body := [.assign "_name" "name", .store "_logger" .null] } },
    { head := TypeExpr.providerInterface
      lineage := [TypeExpr.providerInterface, base, TypeExpr.object]
      openMethods := providerMethods },
    { head := TypeExpr.providerClass
      lineage := [TypeExpr.providerClass, TypeExpr.providerInterface, base, TypeExpr.object]
      hooks := providerMethods
      properties := ["is_scope"]
      initializer := some {
        name := "ServiceProvider.__init__"
        slots := [{
            name := "descriptors"
            hint := .type (.written "Mapping" (abc "Mapping") [.bare TypeExpr.anything, .bare descriptor]) },
          { name := "parent", hint := optional TypeExpr.providerClass, default := some .null }]
        body := [.fail (.other .value "dictionary update sequence element #0 has length 1; 2 is required")] } },
    { head := .builtin "list"
      lineage := [.builtin "list", TypeExpr.object]
      initializer := some { name := "list", slots := [], body := [] } }]

end ClassTable

end Wiring.Container
