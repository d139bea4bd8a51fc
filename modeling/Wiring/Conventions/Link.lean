import Wiring.Declaration

/-!
The naming convention: a type that writes the interface named after itself as its base or among its interfaces is
linked to it. An interface of that name that is declared counts as written by hand.
-/

namespace Wiring

def interfaceName (name : String) : String :=
  "I" ++ name

/-- The placeholder is the reference as written; the interface is what it stands for. -/
structure InterfaceLink where
  source : TypeRef
  placeholder : TypeRef
  interface : TypeRef
  viaBase : Bool
  handAuthored : Bool
  deriving DecidableEq

def InterfaceLink.synthesized (l : InterfaceLink) : Bool :=
  !l.handAuthored

namespace TypeDeclaration

def writtenRefs (d : TypeDeclaration) : List (TypeRef × Bool) :=
  d.base.toList.map (·, true) ++ d.interfaces.map (·, false)

def isPlaceholder (d : TypeDeclaration) (r : TypeRef) : Bool :=
  r.name = interfaceName d.name && (r.package = "" || r.package = d.package)

end TypeDeclaration

namespace DeclarationSet

def declaresInterface (s : DeclarationSet) (k : TypeKey) : Bool :=
  match s.get? k with
  | some d => d.isInterface
  | none => false

def link? (s : DeclarationSet) (d : TypeDeclaration) : Option InterfaceLink :=
  if d.isInterface then none
  else
    (d.writtenRefs.find? fun w => d.isPlaceholder w.1).map fun w =>
      { source := d.ref
        placeholder := w.1
        interface :=
          { package := d.package
            name := interfaceName d.name
            arguments := if w.1.arguments = [] then d.ref.arguments else w.1.arguments }
        viaBase := w.2
        handAuthored := s.declaresInterface (d.package, interfaceName d.name) }

end DeclarationSet

end Wiring
