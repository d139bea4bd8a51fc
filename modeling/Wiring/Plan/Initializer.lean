import Wiring.Collection
import Wiring.Conventions
import Wiring.Plan.Keyword

/-!
Initializers that take a type's own dependencies and those of its ancestors. The latter are forwarded by position
to the direct base, whose initializer forwards further up.
-/

namespace Wiring

def parameterName (member : String) : String :=
  let stripped := member.toList.dropWhile (· = '_')
  let name := if stripped = [] then member else String.ofList stripped
  if isKeyword name || name = "self" then name ++ "_" else name

def numberedName (name : String) (n : Nat) : String :=
  name ++ "_" ++ toString n

/-- The name itself if it is free, else the first free one among those numbered from 2. One more candidate than
there are used names always holds a free one. -/
def freshName (used : List String) (name : String) : String :=
  if name ∈ used then
    (((List.range (used.length + 1)).map fun i => numberedName name (i + 2)).find? (· ∉ used)).getD name
  else name

def freshNames (used : List String) : List String → List String
  | [] => []
  | n :: ns =>
    let fresh := freshName used (parameterName n)
    fresh :: freshNames (used ++ [fresh]) ns

namespace Settings

/-- A contextual type without arguments is specialised to the type that receives it. -/
def specialize (s : Settings) (type owner : TypeRef) : TypeRef :=
  if type.arguments = [] ∧ type.fullName ∈ s.contextualTypes then type.withArguments [owner] else type

end Settings

namespace Conventions

def inheritedDependencies (c : Conventions) (s : Settings) (d : TypeDeclaration) :
    List (MemberDeclaration × TypeRef) :=
  (c.ancestors d).flatMap fun a =>
    (s.dependencies a.declaration).map fun m => (m, m.type.substitute a.bindings)

def ownDependencies (s : Settings) (d : TypeDeclaration) : List (MemberDeclaration × TypeRef) :=
  (s.dependencies d).map fun m => (m, m.type)

def isInitialized (c : Conventions) (s : Settings) (d : TypeDeclaration) : Bool :=
  !d.isInterface && (s.isRoot d || !(c.inheritedDependencies s d).isEmpty)

def initializedTypes (c : Conventions) (s : Settings) : List TypeDeclaration :=
  c.declarations.types.filter (c.isInitialized s)

def isExtended (c : Conventions) (s : Settings) (d : TypeDeclaration) : Bool :=
  (c.initializedTypes s).any fun e => (c.ancestors e).any (·.declaration.key = d.key)

def initializerPlan (c : Conventions) (s : Settings) (d : TypeDeclaration) : InitializerPlan :=
  let own := ownDependencies s d
  let dependencies := own ++ c.inheritedDependencies s d
  let names := freshNames [] (dependencies.map (·.1.name))
  let parameter (n : String) (p : MemberDeclaration × TypeRef) : InitializerParameter :=
    { name := n
      type := s.specialize p.2 d.ref
      member := p.1
      declaredBy := p.1.owner.getD d.ref }
  let ancestors := c.ancestors d
  let callsBase := ancestors.any fun a => c.isInitialized s a.declaration
  let hasHook := d.declaresMethod s.completionHook ||
    ancestors.any fun a => a.declaration.declaresMethod s.completionHook
  { owner := d.ref
    parameters := List.zipWith parameter names dependencies
    assignments := (own.map (·.1.name)).zip names
    base := if callsBase then ancestors.head?.map (·.ref) else none
    forwarded := names.drop own.length
    completionHook := if hasHook then some s.completionHook else none
    guardCompletion := hasHook && c.isExtended s d
    bounds := d.bounds
    location := d.location }

def initializerPlans (c : Conventions) (s : Settings) : List InitializerPlan :=
  (c.initializedTypes s).map (c.initializerPlan s)

end Conventions

end Wiring
