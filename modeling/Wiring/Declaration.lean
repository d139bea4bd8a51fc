import Wiring.Named
import Wiring.TypeRef

/-!
Declared types and their members, and whole-program sets of them. No two types of a set share package and name.
-/

namespace Wiring

structure SourceLocation where
  path : String
  line : Int := 1
  column : Int := 0
  length : Int := 0
  deriving DecidableEq

def SourceLocation.text (l : SourceLocation) : String :=
  l.path ++ ":" ++ toString l.line ++ ":" ++ toString l.column

structure Annotation where
  name : String
  location : Option SourceLocation := none
  deriving DecidableEq

structure Parameter where
  name : String
  type : TypeRef
  default : Option String := none
  deriving DecidableEq

structure MemberDeclaration where
  name : String
  type : TypeRef
  kind : MemberKind := .field
  visibility : Visibility := .publicAccess
  owner : Option TypeRef := none
  annotations : List Annotation := []
  parameters : List Parameter := []
  isAccessor : Bool := false
  isStatic : Bool := false
  isWritable : Bool := false
  location : Option SourceLocation := none
  deriving DecidableEq

structure TypeBound where
  parameter : String
  bound : TypeRef
  deriving DecidableEq

structure TypeDeclaration where
  ref : TypeRef
  base : Option TypeRef := none
  interfaces : List TypeRef := []
  members : List MemberDeclaration := []
  annotations : List Annotation := []
  isInterface : Bool := false
  bounds : List TypeBound := []
  location : Option SourceLocation := none
  deriving DecidableEq

namespace Parameter

def text (p : Parameter) : String :=
  match p.default with
  | none => p.type.text ++ " " ++ p.name
  | some value => p.type.text ++ " " ++ p.name ++ " = " ++ value

def substitute (m : Bindings) (p : Parameter) : Parameter :=
  { p with type := p.type.substitute m }

end Parameter

namespace MemberDeclaration

def hasAnnotation (m : MemberDeclaration) (name : String) : Bool :=
  m.annotations.any (·.name = name)

/-- Kind, name, parameters and type in one text, by which members are compared. -/
def signature (m : MemberDeclaration) : String :=
  Named.text m.kind ++ " " ++ m.name ++ "(" ++ ", ".intercalate (m.parameters.map Parameter.text) ++ ") -> " ++
    m.type.text

def substitute (b : Bindings) (m : MemberDeclaration) : MemberDeclaration :=
  { m with type := m.type.substitute b, parameters := m.parameters.map (Parameter.substitute b) }

def boundSignature (b : Bindings) (m : MemberDeclaration) : String :=
  (m.substitute b).signature

/-- The members that an interface offers: public methods, properties and events of instances. -/
def isPublicSurface (m : MemberDeclaration) : Bool :=
  m.visibility = .publicAccess && (m.kind = .method || m.kind = .property || m.kind = .event) &&
    !m.isAccessor && !m.isStatic

end MemberDeclaration

namespace TypeDeclaration

abbrev key (d : TypeDeclaration) : TypeKey :=
  d.ref.key

abbrev name (d : TypeDeclaration) : String :=
  d.ref.name

abbrev package (d : TypeDeclaration) : String :=
  d.ref.package

abbrev fullName (d : TypeDeclaration) : String :=
  d.ref.fullName

abbrev typeParameters (d : TypeDeclaration) : List TypeRef :=
  d.ref.typeParameters

def hasAnnotation (d : TypeDeclaration) (name : String) : Bool :=
  d.annotations.any (·.name = name)

def annotationsNamed (d : TypeDeclaration) (names : List String) : List Annotation :=
  d.annotations.filter (·.name ∈ names)

def declaresMethod (d : TypeDeclaration) (name : String) : Bool :=
  d.members.any fun m => m.kind = .method && m.name = name

def interfaceParents (d : TypeDeclaration) : List TypeRef :=
  match d.base with
  | none => d.interfaces
  | some base => if base ∈ d.interfaces then d.interfaces else base :: d.interfaces

end TypeDeclaration

structure DeclarationSet where
  types : List TypeDeclaration
  keys_nodup : (types.map TypeDeclaration.key).Nodup

namespace DeclarationSet

def firstRepeat (seen : List TypeKey) : List TypeDeclaration → Option TypeDeclaration
  | [] => none
  | d :: r => if d.key ∈ seen then some d else firstRepeat (d.key :: seen) r

theorem nodup_of_firstRepeat_eq_none {ts : List TypeDeclaration} {seen : List TypeKey}
    (h : firstRepeat seen ts = none) :
    (ts.map TypeDeclaration.key).Nodup ∧ ∀ d ∈ ts, d.key ∉ seen := by
  induction ts generalizing seen with
  | nil => simp
  | cons d r ih =>
    rw [firstRepeat] at h
    split at h
    · simp at h
    · rename_i hd
      obtain ⟨hn, hs⟩ := ih h
      constructor
      · rw [List.map_cons, List.nodup_cons]
        refine ⟨fun hk => ?_, hn⟩
        obtain ⟨e, he, hek⟩ := List.mem_map.1 hk
        exact hs e he (hek ▸ List.mem_cons_self)
      · intro e he
        rcases List.mem_cons.1 he with rfl | he
        · exact hd
        · exact fun hk => hs e he (List.mem_cons_of_mem _ hk)

def ofTypes (ts : List TypeDeclaration) : Except TypeDeclaration DeclarationSet :=
  match h : firstRepeat [] ts with
  | some d => .error d
  | none => .ok ⟨ts, (nodup_of_firstRepeat_eq_none h).1⟩

def get? (s : DeclarationSet) (k : TypeKey) : Option TypeDeclaration :=
  s.types.find? (·.key = k)

def find? (s : DeclarationSet) (r : TypeRef) : Option TypeDeclaration :=
  s.get? r.key

end DeclarationSet

end Wiring
