import Wiring.Container.Running

/-!
What initializers say about the types of their parameters. A text stands for the type that it names where the
initializer is; the names in it are looked up when the type is asked for.
-/

namespace Wiring.Container.Hint

open Executing

def depthFor (text : String) : Nat :=
  8 * text.length + 64

def typeOfText (s : Execution) : Nat → List String → String → Except Raised TypeExpr
  | 0, _, _ => .error tooDeep
  | n + 1, seen, text => do
    let t ← Formation.forward text
    match Formation.expressionOf? text with
    | none => return t
    | some e =>
      if text ∈ seen then return t
      let (m, _) ← (evaluate (depthFor text) e).run s
      let t ← Formation.check "Forward references must evaluate to types." false m.asType
      t.settle (typeOfText s n (text :: seen))

def textDepth : Nat :=
  100

def ofType (s : Execution) (t : TypeExpr) : Hint :=
  let read := typeOfText s textDepth []
  let settled : Except Raised TypeExpr := match t with
    | .key .null => .ok TypeExpr.nothing
    | .key (.string text) => read text
    | t => t.settle read
  match settled with
  | .ok t => .type t
  | .error r => .unreadable r.message

end Wiring.Container.Hint
