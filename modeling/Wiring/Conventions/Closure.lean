import Wiring.Conventions

/-!
All interfaces of a type: those it and its ancestors name, and the parents of these. The walk goes depth first and
lists every interface once, in the order of first sight. Parents may grow without end, so the walk has a limit on
its depth.
-/

namespace Wiring

/-- Visits a vertex and all that is reached from it through vertices not seen before. -/
def visit {α : Type} [DecidableEq α] (next : α → List α) : (depth : Nat) → (seen : List α) → α → Option (List α)
  | 0, seen, a => if a ∈ seen then some seen else none
  | depth + 1, seen, a =>
    if a ∈ seen then some seen else (next a).foldlM (visit next depth) (seen ++ [a])

namespace Conventions

/-- The parents of an interface with its type arguments applied: those it declares, and those of the plan made
for it. -/
def parentsOf (c : Conventions) (plans : List InterfacePlan) (r : TypeRef) : List TypeRef :=
  let declared :=
    match (c.declarations.find? r).filter (·.isInterface) with
    | some d => d.interfaceParents.map fun p => c.bind (p.substitute (d.ref.bindings r)) d.package
    | none => []
  let planned :=
    match plans.find? (·.ref.key = r.key) with
    | some p => p.parents.map fun q => c.bind (q.substitute (p.ref.bindings r)) p.ref.package
    | none => []
  declared ++ planned

/-- A hand-written interface that is a placeholder for the base is left out itself, its parents are not. -/
def ownInterfaces (c : Conventions) (plans : List InterfacePlan) (d : TypeDeclaration) : List TypeRef :=
  let direct := (c.directInterfaces d false).map (c.bind · d.package)
  match (c.link? d).filter fun l => l.viaBase && l.handAuthored with
  | some l => direct ++ c.parentsOf plans l.interface
  | none => direct

def inheritedInterfaces (c : Conventions) (a : Ancestor) : List TypeRef :=
  (c.directInterfaces a.declaration true).map fun r => c.bind (r.substitute a.bindings) a.declaration.package

def interfaceClosure (c : Conventions) (plans : List InterfacePlan) (depth : Nat) (d : TypeDeclaration) :
    Option (List TypeRef) :=
  (c.ownInterfaces plans d ++ (c.ancestors d).flatMap c.inheritedInterfaces).foldlM
    (visit (c.parentsOf plans) depth) []

end Conventions

end Wiring
