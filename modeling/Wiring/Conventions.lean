import Wiring.Conventions.Ancestry
import Wiring.Plan

/-!
The conventions of one set of declarations, worked out once: which types are linked to interfaces and which
ancestors each type has. Pending references are bound to the linked interfaces of the package that names them.
-/

namespace Wiring

structure Conventions where
  declarations : DeclarationSet
  links : List InterfaceLink
  chains : List (TypeKey × List Ancestor)

namespace Conventions

def ofDeclarations (s : DeclarationSet) : Except (List String) Conventions := do
  -- Fails with the names on a circle of bases.
  let chains ← s.types.mapM fun d => do return (d.key, ← s.chain d)
  return { declarations := s, links := s.types.filterMap s.link?, chains }

def link? (c : Conventions) (d : TypeDeclaration) : Option InterfaceLink :=
  c.links.find? (·.source.key = d.key)

def linkTo? (c : Conventions) (k : TypeKey) : Option InterfaceLink :=
  c.links.find? (·.interface.key = k)

def bind (c : Conventions) (r : TypeRef) (package : String) : TypeRef :=
  if r.isPending && (c.linkTo? (package, r.name)).isSome then r.inPackage package else r

def synthesizesInterface (c : Conventions) (d : TypeDeclaration) : Bool :=
  (c.link? d).any (·.synthesized)

def ancestors (c : Conventions) (d : TypeDeclaration) : List Ancestor :=
  (Assoc.find? d.key c.chains).getD []

def isInterface (c : Conventions) (r : TypeRef) (package : String) : Bool :=
  let bound := c.bind r package
  match c.declarations.find? bound with
  | some d => d.isInterface
  | none => (c.linkTo? bound.key).isSome

/-- The base if it is an interface. A placeholder stands for the linked interface, or for nothing if that is
left out. -/
def baseInterfaces (c : Conventions) (d : TypeDeclaration) (withOwn : Bool) : List TypeRef :=
  match (c.link? d).filter (·.viaBase) with
  | some l => if withOwn then [l.interface] else []
  | none => (d.base.toList.filter (c.isInterface · d.package)).map (c.bind · d.package)

def listedInterface (c : Conventions) (d : TypeDeclaration) (r : TypeRef) : TypeRef :=
  match (c.link? d).filter fun l => !l.viaBase && r = l.placeholder with
  | some l => c.bind l.interface d.package
  | none => c.bind r d.package

def directInterfaces (c : Conventions) (d : TypeDeclaration) (withOwn : Bool) : List TypeRef :=
  c.baseInterfaces d withOwn ++ d.interfaces.map (c.listedInterface d)

end Conventions

end Wiring
