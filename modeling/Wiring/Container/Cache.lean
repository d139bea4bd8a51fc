import Wiring.Container.World

/-!
How long instances live. A singleton is kept for the whole tree, a scoped instance for the scope that asked, a
transient one not at all; an instance is kept only once its creation is over.
-/

namespace Wiring.Container

inductive Holding where
  | cached (v : Value)
  | create
  | refused (failure : Failure)

namespace World

def holdingIn (cache : Cache) (key : TypeExpr) : Holding :=
  match key.asKey with
  | .error f => .refused f
  | .ok identity =>
    match Assoc.find? identity cache with
    | some (_, v) => .cached v
    | none => .create

def outsideScope (key : TypeExpr) : Failure :=
  .scope ("Scoped service " ++ key.keyText ++ " cannot be resolved from the root provider")

def holding (w : World) (p : Nat) (key : TypeExpr) : Lifetime → Holding
  | .singleton => holdingIn (w.tree p).singletons key
  | .scoped =>
    if (w.provider p).isScope then holdingIn (w.provider p).instances key else .refused (outsideScope key)
  | .transient => .create

def keepIn (key : TypeExpr) (v : Value) (cache : Cache) : Cache :=
  let written := ((Assoc.find? key.identity cache).map Prod.fst).getD key
  Assoc.put key.identity (written, v) cache

def keep (p : Nat) (key : TypeExpr) (v : Value) : Lifetime → World → World
  | .singleton, w => w.modifyTree p fun t => { t with singletons := keepIn key v t.singletons }
  | .scoped, w => w.modifyProvider p fun s => { s with instances := keepIn key v s.instances }
  | .transient, w => w

def clearInstances (p : Nat) (w : World) : World :=
  w.modifyProvider p fun s => { s with instances := [] }

def close (p : Nat) (w : World) : World :=
  -- Scoped instances go with their provider, singletons with the root.
  let isScope := (w.provider p).isScope
  let w := w.modifyProvider p fun s => { s with instances := [], isClosed := true }
  if isScope then w else w.modifyTree p fun t => { t with singletons := [] }

def buildEvent (rs : Registrations) : LogEvent where
  logger := Registrations.collectionLogger
  level := .debug
  event := "provider_built"
  context := [("services", .ofNat rs.length)]

def addRoot (rs : Registrations) (w : World) : Nat × World :=
  (w.providers.length,
    { w with
      trees := w.trees ++ [{}]
      providers := w.providers ++ [{ tree := w.trees.length, registrations := rs, isScope := false }] })

def build (rs : Registrations) (w : World) : Nat × World :=
  (w.log (buildEvent rs)).addRoot rs

def addScope (p : Nat) (w : World) : Nat × World :=
  let s := w.provider p
  (w.providers.length,
    { w with providers := w.providers ++ [{ tree := s.tree, registrations := s.registrations, isScope := true }] })

def scopeEvent (s : Provider) : LogEvent where
  logger := "miraveja_digen.infrastructure.runtime.provider"
  level := .debug
  event := "scope_created"
  context := [("services", .ofNat s.registrations.length)]

end World

namespace Resolving

def getOrCreate (p : Nat) (key : TypeExpr) (lifetime : Lifetime) (create : Resolving Value) :
    Resolving Value := do
  match (← get).holding p key lifetime with
  | .cached v => return v
  | .refused f => throw f
  | .create =>
    let v ← mapFailure (.ofCreation key) create
    modify (World.keep p key v lifetime)
    return v

def createScope (p : Nat) : Resolving Nat := do
  let s := (← get).provider p
  if s.isClosed then throw (.scope "Cannot create a scope from a closed provider")
  modify (World.log (World.scopeEvent s))
  let (q, w) := (← get).addScope p
  set w
  return q

end Resolving

end Wiring.Container
