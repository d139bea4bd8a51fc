import Wiring.Container.Failure
import Wiring.Named

/-!
What the container hands out: plain data, objects by number, and providers by number.
-/

namespace Wiring.Container

inductive Value where
  | data (value : Json)
  | list (items : List Value)
  | provider (index : Nat)
  | object (index : Nat)
  deriving Inhabited

structure Object where
  -- If the class extends one of plain values, the object is such a value too.
  type : TypeExpr
  attributes : List (String × Value) := []
  plain : Option Json := none

/-- A way to make an instance: what it asks for, one thing after the other, and what comes of it. It is handed one
provider, and may know others. -/
inductive Recipe where
  | done (result : Except Failure Value)
  | count (label : String) (next : Nat → Recipe)
  | make (type : TypeExpr) (next : Except Failure Value → Recipe)
  | resolve (service : TypeExpr) (next : Except Failure Value → Recipe)
  | resolveFrom (provider : Nat) (service : TypeExpr) (next : Except Failure Value → Recipe)

namespace Recipe

def value (v : Value) : Recipe :=
  .done (.ok v)

def fail (f : Failure) : Recipe :=
  .done (.error f)

def counter (label : String) : Recipe :=
  .count label fun n => value (.data (.string (label ++ "#" ++ toString n)))

def new (type : TypeExpr) : Recipe :=
  .make type .done

def pass (service : TypeExpr) : Recipe :=
  .resolve service .done

def resolveAll (services : List TypeExpr) : Recipe :=
  go services []
where
  go : List TypeExpr → List Value → Recipe
    | [], found => value (.list found.reverse)
    | s :: r, found => .resolve s fun
      | .ok v => go r (v :: found)
      | .error f => fail f

def detached : Recipe → Recipe
  | .done result => .done result
  | .count label next => .count label fun n => (next n).detached
  | .make type next => .make type fun r => (next r).detached
  | .resolve _ next => (next (.error (.noMember "NoneType" "resolve"))).detached
  | .resolveFrom q service next => .resolveFrom q service fun r => (next r).detached

end Recipe

structure Registration where
  -- A recipe, if there is one, takes the place of construction.
  service : TypeExpr
  implementation : TypeExpr
  lifetime : Lifetime
  recipe : Option Recipe := none

namespace Registration

def openParameters (r : Registration) : List String :=
  r.implementation.openParameters

def isOpen (r : Registration) : Bool :=
  !r.openParameters.isEmpty

end Registration

end Wiring.Container
