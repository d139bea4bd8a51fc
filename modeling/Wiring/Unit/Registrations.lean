import Wiring.Log
import Wiring.Plan
import Wiring.Settings
import Wiring.Text.Split
import Wiring.Unit.Text

/-!
The unit that registers services. An open implementation can only stand for a service that is generic over exactly
the same parameters; entries of which this is not true are skipped, each with a diagnostic.
-/

namespace Wiring

structure RegistrationCall where
  lifetime : Lifetime
  service : Term
  implementation : Term

def RegistrationCall.text (c : RegistrationCall) : String :=
  ".add_" ++ Named.text c.lifetime ++ "(" ++ c.service.text ++ ", " ++ c.implementation.text ++ ")"

structure RegistrationUnit where
  name : String
  package : String
  imports : List (List ImportStatement)
  function : String
  collection : String
  calls : List RegistrationCall

def ServiceEntry.isExpressible (e : ServiceEntry) : Bool :=
  !e.isOpenGeneric || e.service.arguments = e.implementation.arguments

namespace RegistrationUnit

def renderCall (e : ServiceEntry) : StateM ImportTable RegistrationCall := do
  if e.isOpenGeneric then
    let service ← ImportTable.name e.service
    let implementation ← ImportTable.name e.implementation
    return { lifetime := e.lifetime, service := .mk service [], implementation := .mk implementation [] }
  else
    let service ← ImportTable.render e.service
    let implementation ← ImportTable.render e.implementation
    return { lifetime := e.lifetime, service, implementation }

def renderCalls : List ServiceEntry → StateM ImportTable (List RegistrationCall)
  | [] => return []
  | e :: es => do
    if e.isExpressible then
      let call ← renderCall e
      return call :: (← renderCalls es)
    else renderCalls es

def build (s : Settings) (services : List ServiceEntry) (assembly : String) :
    StateM ImportTable RegistrationUnit := do
  let (package, name) := Text.splitLast '.' s.serviceCollection
  let collection ← ImportTable.require package name
  let calls ← renderCalls services
  let imports ← ImportTable.importGroups
  return {
    name := assembly ++ ".service_registrations.py"
    package := assembly
    imports
    function := s.registrationFunction
    collection, calls }

def ofServices (s : Settings) (services : List ServiceEntry) (assembly : String) : RegistrationUnit :=
  ((build s services assembly).run (ImportTable.create [] [])).1

def skipped (services : List ServiceEntry) : List ServiceEntry :=
  services.filter (!·.isExpressible)

def diagnostics (services : List ServiceEntry) : List Diagnostic :=
  (skipped services).map fun e => .unregistrableService e.location e.service e.implementation

def events (services : List ServiceEntry) : List LogEvent :=
  (skipped services).map fun e =>
    { logger := "miraveja_digen.application.emitter"
      level := .warning
      event := "service_skipped"
      context := [("service", .string e.service.text), ("implementation", .string e.implementation.text)] }

def bodyLines (u : RegistrationUnit) : List String :=
  match u.calls with
  | [] => ["    return services"]
  | calls => ["    return (", "        services"] ++ calls.map ("        " ++ ·.text) ++ ["    )"]

def text (u : RegistrationUnit) : String :=
  Unit.lines (Unit.preamble u.imports [] ++
    ["def " ++ u.function ++ "(services: " ++ u.collection ++ ") -> " ++ u.collection ++ ":",
      "    \"\"\"Register the annotated services of " ++ u.package ++ ".\"\"\""] ++
    u.bodyLines)

def toSource (u : RegistrationUnit) : SourceUnit where
  name := u.name
  package := u.package
  text := u.text

end RegistrationUnit

end Wiring
