import Wiring.Container.Description

/-!
A conversation with the caches alone, without services: instances are asked for under plain keys, each request
saying how long the instance lives and how to make it.
-/

namespace Wiring.Container

structure Keeping where
  world : World := {}
  providers : List (String × Nat) := []

namespace Keeping

inductive Fault where
  | failed (failure : Failure)
  | undescribed (fault : Description.Fault)
  | tooDeep
  | unknownProvider (name : String)

def provider (s : Keeping) (j : Json) : Except Fault Nat :=
  let name := Description.textOf j
  match Assoc.find? name s.providers with
  | some p => .ok p
  | none => .error (.unknownProvider name)

def told : Value → Json
  | .data j => j
  | _ => .null

def nested (v : Value) : String :=
  "nested:" ++ match told v with
    | .string s => s
    | j => j.literal

def Fault.failure : Fault → Failure
  | .failed f => f
  | .unknownProvider name | .undescribed (.unknownName name) => .other .key name
  | .undescribed (.raised r) => .other .type r.message
  | .undescribed .noClass => .other .type ""
  | .tooDeep => .other .run ""

def simpleRecipe (fields : List (String × Json)) : Except Fault (Resolving Value) :=
  match Assoc.find? "value" fields, Assoc.find? "count" fields with
  | some v, _ => .ok (pure (.data v))
  | none, some l => .ok do
    return .data (.string (Description.textOf l ++ "#" ++ toString (← Resolving.nextCall)))
  | none, none => do
    let f ← (Description.plainFailure (.object fields)).mapError .undescribed
    return throw f

mutual

def request (s : Keeping) : Json → Except Fault (Resolving Value)
  | .object fields => do
    let field (name : String) : Json := (Assoc.find? name fields).getD .null
    let p ← s.provider (field "on")
    let make ← recipeIn s fields
    return do
      let l ← Resolving.ofExcept (lifetimeOf (field "lifetime"))
      Resolving.getOrCreate p (.key (field "key")) l make
  | _ => do
    let _ ← s.provider .null
    simpleRecipe []

def recipeIn (s : Keeping) : List (String × Json) → Except Fault (Resolving Value)
  | [] => simpleRecipe []
  | (name, j) :: r => if name = "factory" then recipe s j else recipeIn s r

def recipe (s : Keeping) : Json → Except Fault (Resolving Value)
  | .object fields =>
    if Assoc.contains "get" fields && !Assoc.contains "value" fields && !Assoc.contains "count" fields then
      nestedIn s fields
    else simpleRecipe fields
  | _ => simpleRecipe []

def nestedIn (s : Keeping) : List (String × Json) → Except Fault (Resolving Value)
  | [] => simpleRecipe []
  | (name, j) :: r =>
    if name = "get" then
      match request s j with
      | .ok inner => .ok do return .data (.string (nested (← inner)))
      | .error fault => .ok (throw fault.failure)
    else nestedIn s r

end

def keyText : TypeExpr → Json
  | .key k => k
  | t => .string t.text

def singletons (s : Keeping) (p : Nat) : Json :=
  .array ((s.world.tree p).singletons.map fun e => .array [keyText e.2.1, told e.2.2])

def named (s : Keeping) (name : Json) (w : Nat × World) : Keeping :=
  { world := w.2, providers := Assoc.put (Description.textOf name) w.1 s.providers }

def step (s : Keeping) (o : Json) : Except Fault Json × Keeping :=
  match o.getD "do" with
  | .string "root" => (.ok .null, s.named (o.getD "as") (s.world.addRoot []))
  | action =>
    match s.provider (o.getD "on") with
    | .error f => (.error f, s)
    | .ok p =>
      match action with
      | .string "scope" => (.ok .null, s.named (o.getD "as") (s.world.addScope p))
      | .string "clear" => (.ok .null, { s with world := s.world.clearInstances p })
      | .string "is_scope" => (.ok (.bool (s.world.provider p).isScope), s)
      | .string "singletons" => (.ok (s.singletons p), s)
      | _ =>
        match s.request o with
        | .error f => (.error f, s)
        | .ok x =>
          match x s.world with
          | none => (.error .tooDeep, s)
          | some (r, world) => ((r.map told).mapError .failed, { s with world })

def run : Keeping → List Json → List (Except Fault Json)
  | _, [] => []
  | s, o :: r =>
    let (answer, s) := s.step o
    answer :: run s r

end Keeping

end Wiring.Container
