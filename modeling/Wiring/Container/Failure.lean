import Wiring.Container.TypeExpr

/-!
Why a request to the container fails. Initializers and factories may fail for reasons of their own, which the
container passes on or wraps.
-/

namespace Wiring.Container

inductive FailureKind where
  | general
  | declaration
  | lifetime
  | value
  | key
  | run
  | type
  | member
  | name
  deriving DecidableEq

namespace FailureKind

def named : List (String × FailureKind) :=
  [("ValueError", .value), ("KeyError", .key), ("RuntimeError", .run), ("TypeError", .type),
    ("DIGenException", .general), ("DeclarationError", .declaration), ("LifetimeError", .lifetime),
    ("AttributeError", .member), ("NameError", .name)]

def text (k : FailureKind) : String :=
  ((named.find? fun n => n.2 = k).map Prod.fst).getD ""

end FailureKind

inductive Failure where
  | unresolvable (service : TypeExpr) (reason : Option String)
  | circularDependency (chain : List TypeExpr)
  | circularInheritance (chain : List String)
  | scope (message : String)
  | other (kind : FailureKind) (message : String)
  deriving DecidableEq

namespace Failure

def kind : Failure → String
  | .unresolvable _ _ => "UnresolvableError"
  | .circularDependency _ => "CircularDependencyError"
  | .circularInheritance _ => "CircularInheritanceError"
  | .scope _ => "ScopeError"
  | .other kind _ => kind.text

def text : Failure → String
  | .unresolvable service reason =>
    "Cannot resolve dependency for type: " ++ service.shortName ++
      match reason.filter (· ≠ "") with
      | none => ""
      | some r => ". Reason: " ++ r
  | .circularDependency chain =>
    "Circular dependency detected: " ++ " -> ".intercalate (chain.map TypeExpr.shortName)
  | .circularInheritance chain => "Circular inheritance detected: " ++ " -> ".intercalate chain
  | .scope message => message
  | .other .key message => Text.quoted message
  | .other _ message => message

def ofCreation (key : TypeExpr) : Failure → Failure
  | f@(.unresolvable _ _) | f@(.circularDependency _) | f@(.scope _) => f
  | f => .unresolvable key (some ("Failed to create instance: " ++ f.text))

def ofParameter (c : TypeExpr) (parameter : String) : Failure → Failure
  | f@(.circularDependency _) | f@(.scope _) => f
  | f => .unresolvable c
      (some ("Failed to resolve dependency for parameter '" ++ parameter ++ "': " ++ f.text))

def unkeyable (sort : String) : Failure :=
  .other .type ("unhashable type: '" ++ sort ++ "'")

def notCallable (typeName : String) : Failure :=
  .other .type ("'" ++ typeName ++ "' object is not callable")

def noMember (typeName member : String) : Failure :=
  .other .member ("'" ++ typeName ++ "' object has no attribute '" ++ member ++ "'")

def unknownLifetime (written : Json) : Failure :=
  .other .lifetime ("Unknown lifetime: " ++ written.literal)

end Failure

def TypeExpr.asKey (t : TypeExpr) : Except Failure TypeExpr :=
  match t.unkeyable? with
  | some sort => .error (.unkeyable sort)
  | none => .ok t.identity

end Wiring.Container
