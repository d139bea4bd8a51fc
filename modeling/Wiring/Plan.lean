import Wiring.Diagnostic

/-!
What a generation pass works out before any text is written: initializers, interfaces and the registration graph,
and the units and diagnostics that come of it.
-/

namespace Wiring

structure InitializerParameter where
  name : String
  type : TypeRef
  member : MemberDeclaration
  declaredBy : TypeRef
  deriving DecidableEq

/-- The initializer of one type. Own dependencies come first, then those of the ancestors, nearest first; the
latter are forwarded to the base. Each assignment is a member with the parameter that it takes. The completion
hook runs last, under a guard if a derived initializer runs it as well. -/
structure InitializerPlan where
  owner : TypeRef
  parameters : List InitializerParameter := []
  assignments : List (String × String) := []
  base : Option TypeRef := none
  forwarded : List String := []
  completionHook : Option String := none
  guardCompletion : Bool := false
  bounds : List TypeBound := []
  location : Option SourceLocation := none
  deriving DecidableEq

structure InterfacePlan where
  ref : TypeRef
  source : TypeRef
  parents : List TypeRef := []
  members : List MemberDeclaration := []
  bounds : List TypeBound := []
  location : Option SourceLocation := none
  deriving DecidableEq

structure ServiceEntry where
  service : TypeRef
  implementation : TypeRef
  lifetime : Lifetime
  location : Option SourceLocation := none
  deriving DecidableEq

def ServiceEntry.isOpenGeneric (e : ServiceEntry) : Bool :=
  e.implementation.isGeneric

structure DependencyEdge where
  owner : TypeRef
  required : TypeRef
  member : Option String := none
  location : Option SourceLocation := none
  deriving DecidableEq

structure RegistrationGraph where
  services : List ServiceEntry := []
  edges : List DependencyEdge := []
  deriving DecidableEq

structure SourceUnit where
  name : String
  package : String
  text : String
  deriving DecidableEq

structure GenerationResult where
  units : List SourceUnit := []
  diagnostics : List Diagnostic := []
  services : List ServiceEntry := []
  initializers : List InitializerPlan := []
  interfaces : List InterfacePlan := []
  deriving DecidableEq

namespace GenerationResult

def errors (r : GenerationResult) : List Diagnostic :=
  r.diagnostics.filter (·.severity = .error)

def warnings (r : GenerationResult) : List Diagnostic :=
  r.diagnostics.filter (·.severity = .warning)

def hasErrors (r : GenerationResult) : Bool :=
  !r.errors.isEmpty

def unit? (r : GenerationResult) (name : String) : Option SourceUnit :=
  r.units.find? (·.name = name)

end GenerationResult

/-- Why a generation pass gives no result. Only a circle of bases comes from the declarations alone; a walk over the
parents of interfaces may need more depth than it is allowed; the others name what was looked up in vain. -/
inductive GenerationFault where
  | circularInheritance (chain : List String)
  | tooDeep
  | undeclaredSource (fullName : String)
  | noInitializer (fullName : String)
  deriving DecidableEq

def GenerationFault.message : GenerationFault → String
  | .circularInheritance chain => "Circular inheritance detected: " ++ " -> ".intercalate chain
  | .tooDeep => "maximum depth exceeded"
  | .undeclaredSource fullName => "No declaration for " ++ fullName
  | .noInitializer fullName => "No initializer for " ++ fullName

end Wiring
