import Wiring.Record.Scalar

/-!
The settings of a generation pass. Each has a default.
-/

namespace Wiring

structure Settings where
  dependencyMarker : String := "Inject"
  transientAnnotation : String := "Transient"
  scopedAnnotation : String := "Scoped"
  singletonAnnotation : String := "Singleton"
  contextualTypes : List String := ["miraveja_digen.infrastructure.runtime.ContextLogger"]
  externalServices : List String := ["miraveja_digen.infrastructure.runtime.ContextLogger"]
  completionHook : String := "on_initialized"
  assemblyName : Option String := none
  registrationFunction : String := "add_services"
  serviceCollection : String := "miraveja_digen.infrastructure.runtime.ServiceCollection"
  logLevel : String := "INFO"
  jsonLogs : Bool := false
  deriving DecidableEq

namespace Settings

def lifetimeAnnotations (s : Settings) : List (String × Lifetime) :=
  [(s.transientAnnotation, .transient), (s.scopedAnnotation, .scoped), (s.singletonAnnotation, .singleton)]

def lifetimeOf? (s : Settings) (marker : String) : Option Lifetime :=
  Assoc.find? marker (Assoc.ofPairs s.lifetimeAnnotations)

open Codec

def build (names : List String) (o : List (String × Json)) : Reading Settings :=
  let d : Settings := {}
  let known := Settings.mk <$> fieldD "dependency_marker" d.dependencyMarker o <*>
    fieldD "transient_annotation" d.transientAnnotation o <*> fieldD "scoped_annotation" d.scopedAnnotation o <*>
    fieldD "singleton_annotation" d.singletonAnnotation o <*> fieldD "contextual_types" d.contextualTypes o <*>
    fieldD "external_services" d.externalServices o <*> fieldD "completion_hook" d.completionHook o <*>
    fieldD "assembly_name" d.assemblyName o <*> fieldD "registration_function" d.registrationFunction o <*>
    fieldD "service_collection" d.serviceCollection o <*> fieldD "log_level" d.logLevel o <*>
    fieldD "json_logs" d.jsonLogs o
  let unknown : List Issue := o.filterMap fun f =>
    if f.1 ∈ names then none else some { path := [.field f.1], kind := .unknownField }
  match unknown with
  | [] => known
  | _ => Function.const Unit <$> known <*> .refused unknown

def encode (s : Settings) : List (String × Json) :=
  [("dependency_marker", Codec.encode s.dependencyMarker),
    ("transient_annotation", Codec.encode s.transientAnnotation),
    ("scoped_annotation", Codec.encode s.scopedAnnotation),
    ("singleton_annotation", Codec.encode s.singletonAnnotation),
    ("contextual_types", Codec.encode s.contextualTypes),
    ("external_services", Codec.encode s.externalServices),
    ("completion_hook", Codec.encode s.completionHook),
    ("assembly_name", Codec.encode s.assemblyName),
    ("registration_function", Codec.encode s.registrationFunction),
    ("service_collection", Codec.encode s.serviceCollection),
    ("log_level", Codec.encode s.logLevel),
    ("json_logs", Codec.encode s.jsonLogs)]

def fieldNames : List String :=
  (encode {}).map Prod.fst

def tupleFields : List String :=
  ["contextual_types", "external_services"]

end Settings

end Wiring
