import Wiring.Text.Template.Fault

/-!
How a value is laid out in the place of a field: the width to fill and with what, where the value stands in it, and
the form that it takes. A layout is written as

    [[fill]alignment][sign][z][#][0][width][, or _][.precision][form]
-/

namespace Wiring.Text.Template

inductive Alignment where
  | left
  | right
  | center
  | afterSign
  deriving DecidableEq

def Alignment.ofChar? : Char → Option Alignment
  | '<' => some .left
  | '>' => some .right
  | '^' => some .center
  | '=' => some .afterSign
  | _ => none

structure Layout where
  fill : Char := ' '
  alignment : Alignment
  sign : Option Char := none
  hidesNegativeZero : Bool := false
  isAlternate : Bool := false
  width : Nat := 0
  marks : Option Char := none
  precision : Option Nat := none
  form : Char
  deriving DecidableEq

namespace Layout

def largest : Nat :=
  (1 <<< 63) - 1

def number? (cs : List Char) : Except Fault (Option Nat × List Char) :=
  let (n, rest) := leadingNumber cs
  if largest < n then .error .tooManyDigits
  else .ok (if rest.length = cs.length then none else some n, rest)

def noRoom : Nat :=
  1 <<< 40

def alignmentOf : List Char → Option Char × Option Alignment × List Char
  | [] => (none, none, [])
  | [c] =>
    match Alignment.ofChar? c with
    | some a => (none, some a, [])
    | none => (none, none, [c])
  | c :: d :: rest =>
    match Alignment.ofChar? d, Alignment.ofChar? c with
    | some a, _ => (some c, some a, rest)
    | none, some a => (none, some a, d :: rest)
    | none, none => (none, none, c :: d :: rest)

def takeOne (options : List Char) : List Char → Option Char × List Char
  | [] => (none, [])
  | c :: rest => if c ∈ options then (some c, rest) else (none, c :: rest)

def marksOf (cs : List Char) : Except Fault (Option Char × List Char) :=
  match cs with
  | ',' :: '_' :: _ | '_' :: ',' :: _ => .error .marksMixed
  | cs => .ok (takeOne [',', '_'] cs)

def precisionOf : List Char → Except Fault (Option Nat × List Char)
  | '.' :: rest => do
    match ← number? rest with
    | (none, _) => throw .missingPrecision
    | (some n, rest) => return (some n, rest)
  | cs => .ok (none, cs)

def allowsMarks (mark form : Char) : Bool :=
  -- Commas go with decimal forms only, underscores with the other bases too. NUL is refused later.
  form ∈ ['\x00', 'd', 'e', 'f', 'g', 'E', 'G', '%', 'F'] || (mark = '_' && form ∈ ['b', 'o', 'x', 'X'])

def read (kind : String) (form : Char) (alignment : Alignment) (spec : List Char) : Except Fault Layout := do
  let (fill, aligned, rest) := alignmentOf spec
  let (sign, rest) := takeOne ['+', '-', ' '] rest
  let (z, rest) := takeOne ['z'] rest
  let (sharp, rest) := takeOne ['#'] rest
  let (zero, rest) := if fill.isSome then (none, rest) else takeOne ['0'] rest
  let (width, rest) ← number? rest
  let (marks, rest) ← marksOf rest
  let (precision, rest) ← precisionOf rest
  let form ← match rest with
    | [] => pure form
    | [c] => pure c
    | _ => throw (.unreadableLayout (String.ofList spec) kind)
  if let some mark := marks then
    if !allowsMarks mark form then throw (.marksRefused mark form)
  let usual := if zero.isSome ∧ alignment = .right then .afterSign else alignment
  return {
    fill := fill.getD (zero.getD ' ')
    alignment := aligned.getD usual
    sign
    hidesNegativeZero := z.isSome
    isAlternate := sharp.isSome
    width := width.getD 0
    marks
    precision
    form }

def padding (l : Layout) (length : Nat) : List Char × List Char × List Char :=
  let missing := l.width - length
  let all := List.replicate missing l.fill
  match l.alignment with
  | .left => ([], [], all)
  | .right => (all, [], [])
  | .center => (all.take (missing / 2), [], all.drop (missing / 2))
  | .afterSign => ([], all, [])

def text (l : Layout) (cs : List Char) : Except Fault (List Char) := do
  if l.form ≠ 's' then throw (.unknownForm l.form "str")
  match l.sign with
  | some ' ' => throw (.refused "Space not allowed in string format specifier")
  | some _ => throw (.refused "Sign not allowed in string format specifier")
  | none => pure ()
  if l.hidesNegativeZero then
    throw (.refused "Negative zero coercion (z) not allowed in string format specifier")
  if l.isAlternate then throw (.refused "Alternate form (#) not allowed in string format specifier")
  if l.alignment = .afterSign then throw (.refused "'=' alignment not allowed in string format specifier")
  let cs := match l.precision with
    | some n => cs.take n
    | none => cs
  let (before, _, after) := l.padding cs.length
  return before ++ cs ++ after

end Layout

end Wiring.Text.Template
