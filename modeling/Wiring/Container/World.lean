import Wiring.Container.Initialization
import Wiring.Container.Services

/-!
The state of all providers: the objects that there are, the caches, and the services under construction. A root
provider and the scopes below it make a tree, which has one cache for singletons and one path of services under
construction.
-/

namespace Wiring.Container

abbrev Cache := List (TypeExpr × TypeExpr × Value)

structure Tree where
  singletons : Cache := []
  path : ResolutionPath := []

/-- `instances` holds the scoped ones, which each provider has its own of. -/
structure Provider where
  tree : Nat
  registrations : Registrations := []
  instances : Cache := []
  isScope : Bool
  isClosed : Bool := false

structure Delivery where
  provider : Nat
  service : TypeExpr
  value : Value

/-- `deliveries` are all those so far, the latest first, also those that the construction of another one asked for. -/
structure World where
  objects : List Object := []
  trees : List Tree := []
  providers : List Provider := []
  deliveries : List Delivery := []
  calls : Nat := 0
  constructed : List String := []
  events : List LogEvent := []

namespace World

def provider (w : World) (p : Nat) : Provider :=
  w.providers[p]?.getD { tree := w.trees.length, isScope := false, isClosed := true }

def tree (w : World) (p : Nat) : Tree :=
  w.trees[(w.provider p).tree]?.getD {}

def modifyProvider (p : Nat) (f : Provider → Provider) (w : World) : World :=
  { w with providers := w.providers.modify p f }

def modifyTree (p : Nat) (f : Tree → Tree) (w : World) : World :=
  { w with trees := w.trees.modify (w.provider p).tree f }

def setPath (p : Nat) (path : ResolutionPath) (w : World) : World :=
  w.modifyTree p fun t => { t with path }

def setAttribute (object : Nat) (name : String) (v : Value) (w : World) : World :=
  { w with objects := w.objects.modify object fun o => { o with attributes := Assoc.put name v o.attributes } }

def deliver (d : Delivery) (w : World) : World :=
  { w with deliveries := d :: w.deliveries }

def log (e : LogEvent) (w : World) : World :=
  { w with events := w.events ++ [e] }

def note (text : String) (w : World) : World :=
  { w with constructed := w.constructed ++ [text] }

def classOf? (w : World) : Value → Option ClassHead
  | .object n => w.objects[n]?.bind (·.type.head?)
  | _ => none

def typeName (w : World) : Value → String
  | .data j => TypeExpr.valueSort j
  | .list _ => "list"
  | .provider _ => "ServiceProvider"
  | .object n => ((w.classOf? (.object n)).map (·.name)).getD "object"

end World

/-- A computation on the world. It may fail, and keeps what it has done to the world then; it has no result if it
asks deeper than it is let. -/
abbrev Resolving := ExceptT Failure (StateT World Option)

namespace Resolving

variable {α : Type}

def tooDeep : Resolving α :=
  fun _ => none

def attempt (x : Resolving α) : Resolving (Except Failure α) :=
  fun w => (x w).map fun (r, w) => (.ok r, w)

def ofExcept : Except Failure α → Resolving α
  | .ok a => pure a
  | .error f => throw f

def mapFailure (f : Failure → Failure) (x : Resolving α) : Resolving α :=
  fun w => (x w).map fun (r, w) => (r.mapError f, w)

def nextCall : Resolving Nat := do
  modify fun w => { w with calls := w.calls + 1 }
  return (← get).calls

def newObject (type : TypeExpr) (plain : Option Json) : Resolving Nat := do
  let n := (← get).objects.length
  modify fun w => { w with objects := w.objects ++ [{ type, plain }] }
  return n

end Resolving

end Wiring.Container
