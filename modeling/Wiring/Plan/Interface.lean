import Wiring.Conventions

/-!
Interfaces made from public surfaces. A member is left out if an interface that the type already implements offers
one with the same signature. Plans are made on demand and kept; a type whose plan is being made counts as having
no plan yet when its interface is asked for again.
-/

namespace Wiring

/-- Plans by the type they are made from, and the types whose plans are being made. -/
structure Drafts where
  plans : List (TypeKey × InterfacePlan) := []
  underWay : List TypeKey := []

abbrev Drafting := StateT Drafts (Except GenerationFault)

abbrev Signatures := List String × List TypeKey

def gather (f : List TypeKey → TypeRef → Drafting Signatures) (visited : List TypeKey) :
    List TypeRef → Drafting Signatures
  | [] => pure ([], visited)
  | r :: rs => do
    let (found, visited) ← f visited r
    let (more, visited) ← gather f visited rs
    return (found ++ more, visited)

namespace Conventions

def draftLink? (c : Conventions) (underWay : List TypeKey) (k : TypeKey) : Option InterfaceLink :=
  (c.linkTo? k).filter fun l => l.synthesized && l.source.key ∉ underWay

def draftBase? (c : Conventions) (d : TypeDeclaration) : Option (Ancestor × InterfaceLink) := do
  let a ← (c.ancestors d).head?
  let l ← c.link? a.declaration
  if l.synthesized then return (a, l) else none

def listedParents (c : Conventions) (d : TypeDeclaration) (l : InterfaceLink) (first : List TypeRef) :
    List TypeRef :=
  (c.directInterfaces d false).foldl
    (fun parents r => if r = l.interface ∨ r ∈ parents then parents else parents ++ [r]) first

def ancestorInterfaces (c : Conventions) (d : TypeDeclaration) : List TypeRef :=
  (c.ancestors d).flatMap fun a => (c.directInterfaces a.declaration true).map (·.substitute a.bindings)

def draft (d : TypeDeclaration) (l : InterfaceLink) (parents : List TypeRef) (known : List String) : InterfacePlan where
  ref := l.interface.withArguments d.ref.arguments
  source := d.ref
  parents
  members := d.members.filter fun m => m.isPublicSurface && m.signature ∉ known
  bounds := d.bounds
  location := d.location

mutual

def planFor (c : Conventions) : (steps : Nat) → TypeDeclaration → InterfaceLink → Drafting InterfacePlan
  | 0, _, _ => throw .tooDeep
  | steps + 1, d, l => do
    match Assoc.find? d.key (← get).plans with
    | some plan => return plan
    | none =>
      modify fun s => { s with underWay := d.key :: s.underWay }
      let (first, fromBase) ← match c.draftBase? d with
        | none => pure ([], [])
        | some (a, al) => do
          let basePlan ← planFor c steps a.declaration al
          let parent := basePlan.ref.withArguments a.ref.arguments
          let (found, _) ← planSignatures c steps [] basePlan (basePlan.ref.bindings parent)
          pure ([parent], found)
      let parents := c.listedParents d l first
      let fromParents ← (parents.drop first.length).mapM (interfaceSignatures c steps [])
      let fromAncestors ← (c.ancestorInterfaces d).mapM (interfaceSignatures c steps [])
      let plan := draft d l parents (fromBase ++ fromParents.flatMap Prod.fst ++ fromAncestors.flatMap Prod.fst)
      modify fun s => { plans := Assoc.put d.key plan s.plans, underWay := s.underWay.filter (· ≠ d.key) }
      return plan

/-- The signatures that a plan offers, its own and those of its parents. -/
def planSignatures (c : Conventions) :
    (steps : Nat) → List TypeKey → InterfacePlan → Bindings → Drafting Signatures
  | 0, _, _, _ => throw .tooDeep
  | steps + 1, visited, plan, m => do
    let (found, visited) ← gather (interfaceSignatures c steps) visited (plan.parents.map (·.substitute m))
    return (plan.members.map (·.boundSignature m) ++ found, visited)

def interfaceSignatures (c : Conventions) : (steps : Nat) → List TypeKey → TypeRef → Drafting Signatures
  | 0, _, _ => throw .tooDeep
  | steps + 1, visited, r => do
    if r.key ∈ visited then return ([], visited)
    let visited := r.key :: visited
    match c.draftLink? (← get).underWay r.key with
    | some l =>
      match c.declarations.find? l.source with
      | none => throw (.undeclaredSource l.source.fullName)
      | some d =>
        let plan ← planFor c steps d l
        planSignatures c steps visited plan (plan.ref.bindings r)
    | none =>
      match c.declarations.find? r with
      | none => return ([], visited)
      | some d =>
        let m := d.ref.bindings r
        let parents := d.interfaceParents.map fun p => c.bind (p.substitute m) d.package
        let (found, visited) ← gather (interfaceSignatures c steps) visited parents
        return (d.members.map (·.boundSignature m) ++ found, visited)

end

/-- A plan is entered at most once for each type and once more for each level below it on a chain of bases; between
two entries lie the interfaces visited in one query. -/
def draftingSteps (c : Conventions) : Nat :=
  let count := c.declarations.types.length + 1
  8 * count * count

def draftAll (c : Conventions) : List TypeDeclaration → Drafting (List InterfacePlan)
  | [] => return []
  | d :: ds =>
    match (c.link? d).filter (·.synthesized) with
    | none => draftAll c ds
    | some l => do
      let plan ← planFor c c.draftingSteps d l
      return plan :: (← draftAll c ds)

def interfacePlans (c : Conventions) : Except GenerationFault (List InterfacePlan) :=
  ((draftAll c c.declarations.types).run {}).map Prod.fst

end Conventions

end Wiring
