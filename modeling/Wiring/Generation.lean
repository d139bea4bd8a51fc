import Wiring.Plan.Interface
import Wiring.Plan.Registration
import Wiring.Plan.Validation
import Wiring.Unit.Initializer
import Wiring.Unit.Interface
import Wiring.Unit.Registrations

/-!
A generation pass: conventions, plans, graph, checks and units, in this order, each from what came before.
-/

namespace Wiring

/-- What a pass works out before it writes units. -/
structure Design where
  conventions : Conventions
  interfaces : List InterfacePlan
  initializers : List InitializerPlan
  graph : RegistrationGraph

namespace Design

def ofDeclarations (s : Settings) (depth : Nat) (set : DeclarationSet) : Except GenerationFault Design := do
  let conventions ← (Conventions.ofDeclarations set).mapError .circularInheritance
  let interfaces ← conventions.interfacePlans
  let initializers := conventions.initializerPlans s
  let graph ← conventions.registrationGraph s interfaces initializers depth
  return { conventions, interfaces, initializers, graph }

/-- The settings name the assembly; else it is the outermost package of the first service. -/
def assembly? (s : Settings) (services : List ServiceEntry) : Option String :=
  match s.assemblyName.filter (· ≠ "") with
  | some name => some name
  | none =>
    services.head?.bind fun e =>
      match e.implementation.package.toList.takeWhile (· ≠ '.') with
      | [] => none
      | cs => some (String.ofList cs)

def registrations? (d : Design) (s : Settings) : Option RegistrationUnit :=
  (assembly? s d.graph.services).map (RegistrationUnit.ofServices s d.graph.services)

end Design

structure Generation where
  design : Design
  diagnostics : List Diagnostic
  initializers : List InitializerUnit
  interfaces : List InterfaceUnit
  registrations : Option RegistrationUnit
  events : List LogEvent

namespace Generation

def generatorLogger : String :=
  "miraveja_digen.application.generator"

def started (set : DeclarationSet) : LogEvent where
  logger := generatorLogger
  level := .debug
  event := "generation_started"
  context := [("types", .ofNat set.types.length)]

def ofDeclarations (s : Settings) (depth : Nat) (set : DeclarationSet) : Except GenerationFault Generation := do
  let design ← Design.ofDeclarations s depth set
  let duplicates := duplicateLifetimes (set.types.map s.collect)
  let missing := missingDependencies s design.graph
  let services := design.graph.services
  let registrations := design.registrations? s
  let skipped := if registrations.isSome then services else []
  return {
    design
    diagnostics := duplicates.1 ++ missing.1 ++ RegistrationUnit.diagnostics skipped
    initializers := design.initializers.map InitializerUnit.ofPlan
    interfaces := design.interfaces.map InterfaceUnit.ofPlan
    registrations
    events := duplicates.2 ++ missing.2 ++ RegistrationUnit.events skipped }

def units (g : Generation) : List SourceUnit :=
  g.initializers.map (·.toSource) ++ g.interfaces.map (·.toSource) ++ g.registrations.toList.map (·.toSource)

def result (g : Generation) : GenerationResult where
  units := g.units
  diagnostics := g.diagnostics
  services := g.design.graph.services
  initializers := g.design.initializers
  interfaces := g.design.interfaces

def completed (set : DeclarationSet) (r : GenerationResult) : LogEvent where
  logger := generatorLogger
  level := .info
  event := "generation_completed"
  context := [("types", .ofNat set.types.length), ("units", .ofNat r.units.length),
    ("services", .ofNat r.services.length), ("errors", .ofNat r.errors.length),
    ("warnings", .ofNat r.warnings.length)]

end Generation

def walkDepth : Nat :=
  1000

/-- A pass with what it logs, also where it fails. -/
def generate (s : Settings) (depth : Nat) (set : DeclarationSet) :
    Except GenerationFault GenerationResult × List LogEvent :=
  match Generation.ofDeclarations s depth set with
  | .error fault => (.error fault, [Generation.started set])
  | .ok g => (.ok g.result, Generation.started set :: g.events ++ [Generation.completed set g.result])

end Wiring
