import Wiring.Container.Description

/-!
A type constructed by itself, to see what it asks for: every service that it requests is answered by a text, unless
a failure is laid down for it.
-/

namespace Wiring.Container

structure Trial where
  requested : List String
  constructed : List String
  result : Except Failure Json

namespace Trial

def answer (failures : List (TypeExpr × Failure)) (service : TypeExpr) : Resolving Value := do
  modify fun w => w.modifyTree 0 fun t => { t with path := t.path ++ [service] }
  match failures.find? fun f => f.1.text = service.text with
  | some (_, f) => throw f
  | none => return .data (.string ("resolved " ++ service.text))

def viewAttribute : Value → Json
  | .data (.array items) => .string (Json.array items).literal
  | .data (.object fields) => .string (Json.object fields).literal
  | .data j => j
  | .list _ => .string "()"
  | _ => .null

def noAttributes : Failure :=
  .other .type "vars() argument must have __dict__ attribute"

def viewResult (w : World) (v : Value) : Except Failure Json :=
  match v with
  | .object n =>
    match w.objects[n]? with
    | none => .error noAttributes
    | some o =>
      if o.type = .bare TypeExpr.object then .error noAttributes
      else
        let shown := o.attributes.filter fun a => Description.isShown a.1
        .ok (.object [("class", .string o.type.text), ("attrs", .object (shown.map fun a => (a.1, viewAttribute a.2)))])
  | _ => .error noAttributes

def run (t : ClassTable) (failures : List (TypeExpr × Failure)) (implementation : TypeExpr) : Option Trial :=
  let (p, start) := World.addRoot [] {}
  (Resolving.construct t (fun _ s => answer failures.reverse s) p implementation start).map fun (r, w) =>
    { requested := (w.tree p).path.map TypeExpr.text
      constructed := w.constructed
      result := r.bind (viewResult w) }

def loggerName (t : ClassTable) (type : TypeExpr) (given : Json) : Except Failure String :=
  let named := if given = .null then [] else [("name", Value.data given)]
  let nameless (type : String) : Failure := .noMember type "name"
  match Resolving.instantiate t (fun _ _ => Resolving.tooDeep) type named {} with
  | some (.ok v, w) =>
    match v with
    | .object n =>
      match (w.objects[n]?).map (World.loggerName t) with
      | some (.name s) => .ok s
      | _ => .error (nameless (w.typeName v))
    | _ => .error (nameless (w.typeName v))
  | some (.error f, _) => .error f
  | none => .error (nameless "object")

end Trial

end Wiring.Container
