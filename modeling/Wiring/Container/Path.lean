import Wiring.Container.Failure

/-!
The services under construction, outermost first. Each stands there as it was requested, so one generic class
closed in two ways is two services; none stands there twice.
-/

namespace Wiring.Container

abbrev ResolutionPath := List TypeExpr

namespace ResolutionPath

def enter (path : ResolutionPath) (service : TypeExpr) : Except Failure ResolutionPath :=
  match path.dropWhile fun t => t.identity ≠ service.identity with
  | [] => .ok (path ++ [service])
  | loop => .error (.circularDependency (loop ++ [service]))

def leave (path : ResolutionPath) : ResolutionPath :=
  path.dropLast

def describe (path : ResolutionPath) : String :=
  " -> ".intercalate (path.map TypeExpr.shortName)

def explain (path : ResolutionPath) (reason : String) : String :=
  if path = [] then reason else reason ++ " (required by " ++ describe path ++ ")"

end ResolutionPath

end Wiring.Container
