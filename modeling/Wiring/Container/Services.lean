import Wiring.Container.Path
import Wiring.Container.Value
import Wiring.Log

/-!
Registrations by the identity of their service, in the order in which services were first registered, and how a
request finds its own: an exact one wins, else a closed generic may use that of the bare one.
-/

namespace Wiring.Container

abbrev Registrations := List (TypeExpr × Registration)

inductive LookupFault where
  | notRegistered
  | argumentCount
  deriving DecidableEq

def LookupFault.reason : LookupFault → String
  | .notRegistered => "No registration found"
  | .argumentCount => "Generic argument count does not match the open registration"

namespace Registrations

def openFor? (rs : Registrations) : TypeExpr → Option Registration
  | .closed c _ => (Assoc.find? (.bare c) rs).filter (·.isOpen)
  | _ => none

def lookup (rs : Registrations) (service : TypeExpr) : Except LookupFault (Registration × TypeExpr) :=
  match Assoc.find? service.identity rs, rs.openFor? service, service with
  | some r, _, _ => .ok (r, r.implementation)
  | none, some r, .closed _ arguments =>
    match r.implementation.head?.bind fun c => TypeExpr.close? c arguments with
    | some implementation => .ok (r, implementation)
    | none => .error .argumentCount
  | _, _, _ => .error .notRegistered

def collectionLogger : String :=
  "miraveja_digen.infrastructure.runtime.collection"

def replacedEvent (r : Registration) : LogEvent where
  logger := collectionLogger
  level := .debug
  event := "service_replaced"
  context := [("service", .string r.service.keyText), ("lifetime", .string (Named.text r.lifetime))]

def add (rs : Registrations) (r : Registration) : Except Failure (Registrations × List LogEvent) := do
  let key ← r.service.asKey
  return (Assoc.put key r rs, if Assoc.contains key rs then [replacedEvent r] else [])

def register (rs : Registrations) (lifetime : Lifetime) (service : TypeExpr)
    (implementation : Option TypeExpr := none) : Except Failure (Registrations × List LogEvent) :=
  let given := implementation.filter (· ≠ .key .null)
  rs.add { service, implementation := given.getD service, lifetime }

def registerRecipe (rs : Registrations) (lifetime : Lifetime) (service : TypeExpr) (recipe : Recipe) :
    Except Failure (Registrations × List LogEvent) :=
  rs.add { service, implementation := service, lifetime, recipe := some recipe }

def registerLogging (rs : Registrations) : Except Failure (Registrations × List LogEvent) :=
  rs.register .singleton (.bare TypeExpr.contextLogger)

def get? (rs : Registrations) (service : TypeExpr) : Except Failure (Option Registration) := do
  return Assoc.find? (← service.asKey) rs

end Registrations

def lifetimeOf (written : Json) : Except Failure Lifetime :=
  match written with
  | .string s =>
    match (Named.ofText? s : Option Lifetime) with
    | some l => .ok l
    | none => .error (.unknownLifetime written)
  | _ => .error (.unknownLifetime written)

end Wiring.Container
