import Wiring.Declaration
import Wiring.Settings

/-!
What each declared type contributes on its own: the members marked as dependencies and the lifetime it asks for.
Interfaces contribute nothing.
-/

namespace Wiring

structure CollectedType where
  declaration : TypeDeclaration
  dependencies : List MemberDeclaration := []
  lifetimeAnnotations : List Annotation := []
  lifetime : Option Lifetime := none
  isRoot : Bool := false

def CollectedType.hasDuplicateLifetimes (t : CollectedType) : Bool :=
  1 < t.lifetimeAnnotations.length

def Lifetime.winner : List Lifetime → Option Lifetime
  | [] => none
  | l :: r =>
    match winner r with
    | none => some l
    | some w => some (if w.priority < l.priority then w else l)

def MemberDeclaration.isDependency (m : MemberDeclaration) (marker : String) : Bool :=
  (m.kind = .field || m.kind = .property) && !m.isStatic && m.hasAnnotation marker

namespace Settings

def dependencies (s : Settings) (d : TypeDeclaration) : List MemberDeclaration :=
  if d.isInterface then [] else d.members.filter (·.isDependency s.dependencyMarker)

def lifetimeAnnotationsOf (s : Settings) (d : TypeDeclaration) : List Annotation :=
  if d.isInterface then [] else d.annotationsNamed (s.lifetimeAnnotations.map Prod.fst)

def lifetime? (s : Settings) (d : TypeDeclaration) : Option Lifetime :=
  Lifetime.winner ((s.lifetimeAnnotationsOf d).filterMap fun a => s.lifetimeOf? a.name)

def isRoot (s : Settings) (d : TypeDeclaration) : Bool :=
  !d.isInterface &&
    (!(s.dependencies d).isEmpty || (s.lifetime? d).isSome || d.hasAnnotation s.dependencyMarker)

def collect (s : Settings) (d : TypeDeclaration) : CollectedType where
  declaration := d
  dependencies := s.dependencies d
  lifetimeAnnotations := s.lifetimeAnnotationsOf d
  lifetime := s.lifetime? d
  isRoot := s.isRoot d

def serviceTypes (s : Settings) (set : DeclarationSet) : List TypeDeclaration :=
  set.types.filter fun d => (s.lifetime? d).isSome

end Settings

end Wiring
