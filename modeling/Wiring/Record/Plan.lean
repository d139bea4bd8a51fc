import Wiring.Plan
import Wiring.Record.Declaration

/-!
Plans, graphs, units, diagnostics and results in documents.
-/

namespace Wiring.Record

open Codec

def decodePair : Json → Reading (String × String)
  | .array [] =>
    Prod.mk <$> Reading.under (.index 0) (.refuse .missing) <*> Reading.under (.index 1) (.refuse .missing)
  | .array [a] => Prod.mk <$> Reading.under (.index 0) (decode a) <*> Reading.under (.index 1) (.refuse .missing)
  | .array [a, b] => Prod.mk <$> Reading.under (.index 0) (decode a) <*> Reading.under (.index 1) (decode b)
  | .array (_ :: _ :: _ :: _) => .refuse .tupleTooLong
  | _ => .refuse .tupleExpected

instance : Codec (String × String) where
  decode := decodePair
  encode p := .array [.string p.1, .string p.2]

instance : Codec InitializerParameter where
  decode := record fun o =>
    InitializerParameter.mk <$> field "name" o <*> field "type" o <*> field "member" o <*> field "declared_by" o
  encode p := .object [("name", encode p.name), ("type", encode p.type), ("member", encode p.member),
    ("declared_by", encode p.declaredBy)]

instance : Codec InitializerPlan where
  decode := record fun o =>
    InitializerPlan.mk <$> field "owner" o <*> fieldD "parameters" [] o <*> fieldD "assignments" [] o <*>
      fieldD "base" none o <*> fieldD "forwarded" [] o <*> fieldD "completion_hook" none o <*>
      fieldD "guard_completion" false o <*> fieldD "bounds" [] o <*> fieldD "location" none o
  encode p := .object [("owner", encode p.owner), ("parameters", encode p.parameters),
    ("assignments", encode p.assignments), ("base", encode p.base), ("forwarded", encode p.forwarded),
    ("completion_hook", encode p.completionHook), ("guard_completion", encode p.guardCompletion),
    ("bounds", encode p.bounds), ("location", encode p.location)]

instance : Codec InterfacePlan where
  decode := record fun o =>
    InterfacePlan.mk <$> field "ref" o <*> field "source" o <*> fieldD "parents" [] o <*>
      fieldD "members" [] o <*> fieldD "bounds" [] o <*> fieldD "location" none o
  encode p := .object [("ref", encode p.ref), ("source", encode p.source), ("parents", encode p.parents),
    ("members", encode p.members), ("bounds", encode p.bounds), ("location", encode p.location)]

instance : Codec ServiceEntry where
  decode := record fun o =>
    ServiceEntry.mk <$> field "service" o <*> field "implementation" o <*> field "lifetime" o <*>
      fieldD "location" none o
  encode e := .object [("service", encode e.service), ("implementation", encode e.implementation),
    ("lifetime", encode e.lifetime), ("location", encode e.location)]

instance : Codec DependencyEdge where
  decode := record fun o =>
    DependencyEdge.mk <$> field "owner" o <*> field "required" o <*> fieldD "member" none o <*>
      fieldD "location" none o
  encode e := .object [("owner", encode e.owner), ("required", encode e.required), ("member", encode e.member),
    ("location", encode e.location)]

instance : Codec RegistrationGraph where
  decode := record fun o => RegistrationGraph.mk <$> fieldD "services" [] o <*> fieldD "edges" [] o
  encode g := .object [("services", encode g.services), ("edges", encode g.edges)]

instance : Codec SourceUnit where
  decode := record fun o => SourceUnit.mk <$> field "name" o <*> field "namespace" o <*> field "text" o
  encode u := .object [("name", encode u.name), ("namespace", encode u.package), ("text", encode u.text)]

instance : Codec Diagnostic where
  decode := record fun o =>
    Diagnostic.mk <$> field "code" o <*> field "severity" o <*> field "message" o <*> fieldD "arguments" [] o <*>
      fieldD "location" none o
  encode d := .object [("code", encode d.code), ("severity", encode d.severity), ("message", encode d.message),
    ("arguments", encode d.arguments), ("location", encode d.location)]

instance : Codec DiagnosticDescriptor where
  decode := record fun o =>
    DiagnosticDescriptor.mk <$> field "code" o <*> field "title" o <*> field "message_template" o <*>
      field "severity" o
  encode d := .object [("code", encode d.code), ("title", encode d.title),
    ("message_template", encode d.messageTemplate), ("severity", encode d.severity)]

instance : Codec GenerationResult where
  decode := record fun o =>
    GenerationResult.mk <$> fieldD "units" [] o <*> fieldD "diagnostics" [] o <*> fieldD "services" [] o <*>
      fieldD "initializers" [] o <*> fieldD "interfaces" [] o
  encode r := .object [("units", encode r.units), ("diagnostics", encode r.diagnostics),
    ("services", encode r.services), ("initializers", encode r.initializers), ("interfaces", encode r.interfaces)]

end Wiring.Record
