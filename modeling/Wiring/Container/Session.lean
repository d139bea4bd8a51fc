import Wiring.Container.Description

/-!
A conversation with the container, one request after the other: registrations first, then providers that are known
by names, and what is asked of them. A request that fails keeps what it did until then.
-/

namespace Wiring.Container

structure Classes where
  names : Description.Names
  table : ClassTable

namespace Classes

def ofDocuments (classes : List Json) : Except Description.Fault Classes := do
  return { names := Description.namesOf classes, table := ← Description.classTable classes }

def type (c : Classes) (place : Nat) (j : Json) : Except Description.Fault TypeExpr :=
  c.names.type (.expression place) j

end Classes

structure Session where
  registrations : Registrations := []
  world : World := {}
  providers : List (String × Nat) := []
  shown : List Nat := []

namespace Session

inductive Fault where
  | failed (failure : Failure)
  | undescribed (fault : Description.Fault)
  | unseen (fault : Description.ViewFault)
  | tooDeep
  | unknownProvider (name : String)
  | unknownAction (name : String)

abbrev Request := ExceptT Fault (StateM Session)

variable {α : Type}

def resolveDepth : Nat :=
  1000

def ofRegistrations (name : String) (rs : Registrations) : Session :=
  let (p, world) := World.build rs {}
  { registrations := rs, world, providers := [(name, p)] }

def described (x : Except Description.Fault α) : Request α :=
  ExceptT.mk (pure (x.mapError .undescribed))

def permitted (x : Except Failure α) : Request α :=
  ExceptT.mk (pure (x.mapError .failed))

def performing (x : Resolving α) : Request α := do
  let s ← get
  match x s.world with
  | none => throw .tooDeep
  | some (r, world) =>
    set { s with world }
    permitted r

def registered (r : Except Failure (Registrations × List LogEvent)) : Request Json := do
  let (registrations, events) ← permitted r
  modify fun s => { s with registrations, world := events.foldl (fun w e => w.log e) s.world }
  return .ofNat registrations.length

def provider (name : String) : Request Nat := do
  match Assoc.find? name (← get).providers with
  | some p => return p
  | none => throw (.unknownProvider name)

def nameProvider (name : String) (p : Nat) : Request Json := do
  modify fun s => { s with providers := Assoc.put name p s.providers }
  return .bool ((← get).world.provider p).isScope

def providerName (s : Session) (p : Nat) : Json :=
  Json.ofOption (fun e => .string e.1) (s.providers.find? fun e => e.2 = p)

def view (c : Classes) (v : Value) : Request Json := do
  let s ← get
  let (r, shown) := (Description.view c.table s.world s.providerName Description.viewDepth v).run s.shown
  set { s with shown }
  ExceptT.mk (pure (r.mapError .unseen))

def register (c : Classes) (place : Nat) (lifetime : Except Failure Lifetime) (o : Json) : Request Json := do
  let service ← described (c.type (4 * place) (o.getD "service"))
  let implementation ← match o.get? "implementation" with
    | none | some .null => pure none
    | some t => some <$> described (c.type (4 * place + 1) t)
  let lifetime ← permitted lifetime
  registered ((← get).registrations.register lifetime service implementation)

def perform (c : Classes) (place : Nat) (o : Json) : Request Json := do
  let textOf (name : String) : String := Description.textOf (o.getD name)
  let service : Request TypeExpr := described (c.type (4 * place) (o.getD "service"))
  let recipe : Request Recipe :=
    described (Description.recipe c.names (.expression (4 * place + 2)) (o.getD "factory"))
  let lifetime := lifetimeOf (o.getD "lifetime")
  match textOf "do" with
  | "add_transient" => register c place (.ok .transient) o
  | "add_scoped" => register c place (.ok .scoped) o
  | "add_singleton" => register c place (.ok .singleton) o
  | "add" => register c place lifetime o
  | "add_factory" =>
    let t ← service
    let r ← recipe
    let l ← permitted lifetime
    registered ((← get).registrations.registerRecipe l t r)
  | "add_logging" => registered (← get).registrations.registerLogging
  | "mock_singleton" =>
    let t ← service
    let r ← recipe
    let v ← performing (Resolving.follow c.table (Resolving.resolve c.table resolveDepth) 0 r.detached)
    registered ((← get).registrations.registerRecipe .singleton t (.value v))
  | "mock_transient" =>
    let t ← service
    let r ← recipe
    registered ((← get).registrations.registerRecipe .transient t r.detached)
  | "get" =>
    let t ← service
    return Json.ofOption Description.registration (← permitted ((← get).registrations.get? t))
  | "contains" =>
    let t ← service
    return .bool (← permitted ((← get).registrations.get? t)).isSome
  | "list" => return .array ((← get).registrations.map fun r => Description.registration r.2)
  | "build" =>
    let s ← get
    let (p, world) := s.world.build s.registrations
    set { s with world }
    nameProvider (textOf "as") p
  | "scope" =>
    let p ← provider (textOf "on")
    nameProvider (textOf "as") (← performing (Resolving.createScope p))
  | "resolve" =>
    let p ← provider (textOf "on")
    let t ← service
    view c (← performing (Resolving.resolve c.table resolveDepth p t))
  | "close" | "exit" =>
    let p ← provider (textOf "on")
    modify fun s => { s with world := s.world.close p }
    return .ofNat (← get).registrations.length
  | "enter" =>
    let _ ← provider (textOf "on")
    return .bool true
  | other => throw (.unknownAction other)

structure Turn where
  answer : Except Fault Json
  constructed : List String
  events : List LogEvent

def turn (c : Classes) (place : Nat) (o : Json) : StateM Session Turn := do
  let before := (← get).world
  let answer ← (perform c place o).run
  let after := (← get).world
  return {
    answer
    constructed := after.constructed.drop before.constructed.length
    events := after.events.drop before.events.length }

def run (c : Classes) (s : Session) (requests : List Json) : List Turn :=
  ((requests.zipIdx.mapM fun (o, i) => turn c i o).run s).1

end Session

end Wiring.Container
