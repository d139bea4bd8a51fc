import Wiring.Text.Template.Value

/-!
Message templates. A field in braces stands for an argument, by position in order or by its number, or for a part of
it; it may convert it and lay it out. Doubled braces stand for themselves. The layout of a field may have fields of
its own, but these may not. Numbering by order and by number do not mix.

A template is read and filled from left to right, so of two faults the one further left counts.
-/

namespace Wiring.Text.Template

structure Field where
  name : List Char
  conversion : Option Char := none
  layout : List Char := []
  deriving DecidableEq

inductive Piece where
  | literal (c : Char)
  | field (f : Field)
  deriving DecidableEq

def nameLength : (inBrackets : Bool) → List Char → Except Fault Nat
  | _, [] => .error .unclosedField
  | true, c :: r => do return 1 + (← nameLength (c ≠ ']') r)
  | false, c :: r =>
    if c = '{' then .error .braceInField
    else if c ∈ ['}', ':', '!'] then .ok 0
    else do return 1 + (← nameLength (c = '[') r)

def layoutLength : (depth : Nat) → List Char → Except Fault Nat
  | _, [] => .error .unclosedLayout
  | 0, '}' :: _ => .ok 0
  | depth + 1, '}' :: r => do return 1 + (← layoutLength depth r)
  | depth, '{' :: r => do return 1 + (← layoutLength (depth + 1) r)
  | depth, _ :: r => do return 1 + (← layoutLength depth r)

def withLayout (f : Field) (cs : List Char) : Except Fault (Field × List Char) := do
  let n ← layoutLength 0 cs
  return ({ f with layout := cs.take n }, cs.drop (n + 1))

def field (cs : List Char) : Except Fault (Field × List Char) := do
  let n ← nameLength false cs
  let name := cs.take n
  match cs.drop n with
  | ':' :: rest => withLayout { name } rest
  | ['!'] => throw .conversionCut
  | '!' :: c :: '}' :: rest => return ({ name, conversion := some c }, rest)
  | '!' :: c :: ':' :: rest => withLayout { name, conversion := some c } rest
  | ['!', _] => throw .unclosedLayout
  | '!' :: _ => throw .conversionTooLong
  | rest => return ({ name }, rest.drop 1)

def next? : List Char → Except Fault (Option (Piece × List Char))
  | [] => .ok none
  | '{' :: '{' :: rest => .ok (some (.literal '{', rest))
  | '}' :: '}' :: rest => .ok (some (.literal '}', rest))
  | '}' :: _ => .error .loneClosingBrace
  | ['{'] => .error .loneOpeningBrace
  | '{' :: rest => (field rest).map fun (f, rest) => some (.field f, rest)
  | c :: rest => .ok (some (.literal c, rest))

inductive Numbering where
  | undecided
  | byOrder (next : Nat)
  | byNumber
  deriving DecidableEq

def index? (cs : List Char) : Except Fault (Option Nat) :=
  let (n, rest) := leadingNumber cs
  if Layout.largest < n then .error .tooManyDigits
  else .ok (if rest = [] ∧ cs ≠ [] then some n else none)

def argument (arguments : List Value) (index : Nat) : Except Fault Value :=
  match arguments[index]? with
  | some v => .ok v
  | none => .error (.outOfRange index)

def first (arguments : List Value) (numbering : Numbering) (name : List Char) : Except Fault (Value × Numbering) := do
  match ← index? name, numbering with
  | some _, .byOrder _ => throw .orderThenNumber
  | some i, _ => return (← argument arguments i, .byNumber)
  | none, numbering =>
    if name ≠ [] then throw (.unknownName (String.ofList name))
    match numbering with
    | .byNumber => throw .numberThenOrder
    | .undecided => return (← argument arguments 0, .byOrder 1)
    | .byOrder next => return (← argument arguments next, .byOrder (next + 1))

def endsPart (c : Char) : Bool :=
  c = '.' || c = '['

def part : (steps : Nat) → Value → List Char → Except Fault Value
  | 0, v, _ | _, v, [] => .ok v
  | steps + 1, v, '.' :: rest => do
    let name := rest.takeWhile fun c => !endsPart c
    if name = [] then throw .emptyPart
    part steps (← v.member (String.ofList name)) (rest.drop name.length)
  | steps + 1, v, '[' :: rest => do
    let name := rest.takeWhile (· ≠ ']')
    if name.length = rest.length then throw .unclosedItem
    let index ← index? name
    if name = [] then throw .emptyPart
    let item ← match index with
      | none => v.itemNamed (String.ofList name)
      | some i => v.item i
    part steps item (rest.drop (name.length + 1))
  | _ + 1, _, _ :: _ => .error .strayAfterItem

def convert (v : Value) : Option Char → Except Fault Value
  | none | some '\x00' => .ok v
  | some c =>
    match Conversion.ofChar? c with
    | some conversion => .ok (v.convert conversion)
    | none => .error (.unknownConversion c)

mutual

def fillFrom (arguments : List Value) (depth steps : Nat) (numbering : Numbering) (cs : List Char) :
    Except Fault (List Char × Numbering) := do
  -- One step for each character is enough.
  match steps with
  | 0 => return ([], numbering)
  | steps + 1 =>
    match ← next? cs with
    | none => return ([], numbering)
    | some (.literal c, rest) =>
      let (filled, numbering) ← fillFrom arguments depth steps numbering rest
      return (c :: filled, numbering)
    | some (.field f, rest) =>
      let (text, numbering) ← fillField arguments depth numbering f
      let (filled, numbering) ← fillFrom arguments depth steps numbering rest
      return (text ++ filled, numbering)
termination_by (depth, steps + 1)

def fillField (arguments : List Value) (depth : Nat) (numbering : Numbering) (f : Field) :
    Except Fault (List Char × Numbering) := do
  let name := f.name.takeWhile fun c => !endsPart c
  let (v, numbering) ← first arguments numbering name
  let v ← part f.name.length v (f.name.drop name.length)
  let v ← convert v f.conversion
  if '{' ∈ f.layout then
    match depth with
    | 0 => throw .tooDeep
    | depth + 1 =>
      let (layout, numbering) ← fillFrom arguments depth (f.layout.length + 1) numbering f.layout
      return (← v.layOut layout, numbering)
  else return (← v.layOut f.layout, numbering)
termination_by (depth, 0)

end

def fill (template : String) (arguments : List Value) : Except Fault String :=
  (fillFrom arguments 1 (template.length + 1) .undecided template.toList).map fun r => String.ofList r.1

end Wiring.Text.Template
