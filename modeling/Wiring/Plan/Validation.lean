import Wiring.Collection
import Wiring.Log
import Wiring.Plan

/-!
Two checks of a finished graph. Neither stops a pass: of several lifetimes one wins, and what is missing may be
registered elsewhere.
-/

namespace Wiring

inductive ReportSpan where
  | place (location : SourceLocation)
  | type (key : TypeKey)
  deriving DecidableEq

namespace CollectedType

def reportPlace (t : CollectedType) : Option SourceLocation :=
  (t.lifetimeAnnotations.getLast?.bind (·.location)).or t.declaration.location

def reportSpan (t : CollectedType) : ReportSpan :=
  match t.reportPlace with
  | some l => .place l
  | none => .type t.declaration.key

def lifetimeText (t : CollectedType) : String :=
  match t.lifetime with
  | some l => Named.text l
  | none => "None"

end CollectedType

def conflicting (reported : List ReportSpan) : List CollectedType → List CollectedType
  | [] => []
  | t :: ts =>
    if t.hasDuplicateLifetimes ∧ t.reportSpan ∉ reported then
      t :: conflicting (t.reportSpan :: reported) ts
    else conflicting reported ts

def validatorLogger : String :=
  "miraveja_digen.application.validator"

def duplicateLifetimes (types : List CollectedType) : List Diagnostic × List LogEvent :=
  let found := conflicting [] types
  (found.map fun t => .duplicateLifetime t.reportPlace t.declaration.fullName,
    found.map fun t =>
      { logger := validatorLogger
        level := .debug
        event := "duplicate_lifetime"
        context := [("type", .string t.declaration.fullName), ("resolved", .string t.lifetimeText)] })

namespace RegistrationGraph

def isRegistered (g : RegistrationGraph) (r : TypeRef) : Bool :=
  g.services.any (·.service = r)

def hasOpenGeneric (g : RegistrationGraph) (k : TypeKey) : Bool :=
  g.services.any fun e => e.isOpenGeneric && e.service.key = k

/-- A requirement is met by an entry for that very service, by an open one for its generic type, or from outside. -/
def satisfies (g : RegistrationGraph) (s : Settings) (r : TypeRef) : Bool :=
  g.isRegistered r || (r.isGeneric && g.hasOpenGeneric r.key) || r.fullName ∈ s.externalServices

def unmetEdges (g : RegistrationGraph) (s : Settings) : List DependencyEdge :=
  g.edges.filter fun e => !g.satisfies s e.required

end RegistrationGraph

def missingDependencies (s : Settings) (g : RegistrationGraph) : List Diagnostic × List LogEvent :=
  ((g.unmetEdges s).map fun e => .missingDependency e.location e.required,
    (g.unmetEdges s).map fun e =>
      { logger := validatorLogger
        level := .debug
        event := "missing_dependency"
        context := [("owner", .string e.owner.fullName), ("required", .string e.required.text)] })

end Wiring
