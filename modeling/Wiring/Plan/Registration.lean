import Wiring.Conventions.Closure
import Wiring.Plan.Initializer

/-!
The registration graph: which services each annotated type is registered for, and what its initializer requires.
-/

namespace Wiring

namespace Conventions

/-- A type is registered for itself, for every interface of its closure, and last for its own interface where
that was written as the base. -/
def registeredServices (c : Conventions) (plans : List InterfacePlan) (depth : Nat) (d : TypeDeclaration) :
    Option (List TypeRef) := do
  let services := d.ref :: (← c.interfaceClosure plans depth d)
  match (c.link? d).filter (·.viaBase) with
  | some l => return if l.interface ∈ services then services else services ++ [l.interface]
  | none => return services

def serviceEntries (c : Conventions) (plans : List InterfacePlan) (depth : Nat) (d : TypeDeclaration)
    (lifetime : Lifetime) : Option (List ServiceEntry) := do
  let services ← c.registeredServices plans depth d
  return services.map fun service =>
    { service, implementation := d.ref, lifetime, location := d.location }

end Conventions

def dependencyEdges (d : TypeDeclaration) (seen : List TypeRef) : List InitializerParameter → List DependencyEdge
  -- One edge for each type required, from the first parameter that requires it.
  | [] => []
  | p :: ps =>
    if p.type ∈ seen then dependencyEdges d seen ps
    else
      let place := if p.declaredBy.key = d.key then p.member.location else none
      { owner := d.ref
        required := p.type
        member := some p.member.name
        location := place.or d.location } :: dependencyEdges d (p.type :: seen) ps

namespace Conventions

def graphOf (c : Conventions) (s : Settings) (plans : List InterfacePlan) (initializers : List InitializerPlan)
    (depth : Nat) : List TypeDeclaration → Except GenerationFault RegistrationGraph
  | [] => .ok {}
  | d :: ds =>
    match s.lifetime? d with
    | none => graphOf c s plans initializers depth ds
    | some lifetime =>
      match c.serviceEntries plans depth d lifetime, initializers.find? (·.owner.key = d.key) with
      | none, _ => .error .tooDeep
      | some _, none => .error (.noInitializer d.fullName)
      | some entries, some plan => do
        let rest ← graphOf c s plans initializers depth ds
        return { services := entries ++ rest.services
                 edges := dependencyEdges d [] plan.parameters ++ rest.edges }

def registrationGraph (c : Conventions) (s : Settings) (plans : List InterfacePlan)
    (initializers : List InitializerPlan) (depth : Nat) : Except GenerationFault RegistrationGraph :=
  c.graphOf s plans initializers depth c.declarations.types

end Conventions

end Wiring
