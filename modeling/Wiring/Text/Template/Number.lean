import Wiring.Double
import Wiring.Text.Template.Layout

/-!
Whole numbers by a layout: in one of four bases, as a character, or as a floating point number.
-/

namespace Wiring.Text.Template

structure Numeral where
  isNegative : Bool
  base : List Char := []
  digits : List Char
  rest : List Char := []

namespace Numeral

def digitsFor (size width : Nat) : Nat :=
  width - width / (size + 1) + if width % (size + 1) = 0 then 1 else 0

def grouped (size : Nat) (mark : Char) (digits : List Char) : List Char :=
  let place (d : Char × Nat) : List Char :=
    if d.2 ≠ 0 ∧ d.2 % size = 0 then [mark, d.1] else [d.1]
  (digits.reverse.zipIdx.flatMap place).reverse

def groupSize (form : Char) : Nat :=
  if form ∈ ['b', 'o', 'x', 'X'] then 4 else 3

def widened (l : Layout) (digits : List Char) (width : Nat) : List Char :=
  let zeros (n : Nat) : List Char := List.replicate (n - digits.length) '0'
  match digits, l.marks with
  | [], _ => []
  | _, none => zeros width ++ digits
  | _, some mark => grouped (groupSize l.form) mark (zeros (digitsFor (groupSize l.form) width) ++ digits)

def signOf (l : Layout) (n : Numeral) : List Char :=
  if n.isNegative then ['-']
  else match l.sign with
    | some '-' | none => []
    | some c => [c]

def render (l : Layout) (n : Numeral) : List Char :=
  let sign := n.signOf l
  let others := sign.length + n.base.length + n.rest.length
  let width := if l.fill = '0' ∧ l.alignment = .afterSign then l.width - others else 0
  let digits := widened l n.digits width
  let (before, between, after) := l.padding (others + digits.length)
  before ++ sign ++ n.base ++ between ++ digits ++ n.rest ++ after

end Numeral

namespace Layout

def upper (cs : List Char) : List Char :=
  cs.map Char.toUpper

def inBase (l : Layout) (n : Int) : Numeral :=
  let base (radix : Nat) (mark : List Char) : Numeral := {
    isNegative := n < 0
    base := if l.isAlternate then mark else []
    digits := Nat.toDigits radix n.natAbs }
  match l.form with
  | 'b' => base 2 ['0', 'b']
  | 'o' => base 8 ['0', 'o']
  | 'x' => base 16 ['0', 'x']
  | 'X' => { base 16 ['0', 'X'] with digits := upper (Nat.toDigits 16 n.natAbs) }
  | _ => base 10 []

def significant (count m : Nat) : Nat × Nat :=
  let length := decimalLength m
  if length ≤ count then (m * Nat.pow 10 (count - length), length - 1)
  else
    let q := roundDiv m (Nat.pow 10 (length - count))
    if decimalLength q = count then (q, length - 1) else (q / 10, length)

def fraction (l : Layout) (digits : List Char) : List Char :=
  if digits = [] ∧ !l.isAlternate then [] else '.' :: digits

def power (mark : Char) (n : Nat) : List Char :=
  let ds := Nat.toDigits 10 n
  mark :: '+' :: List.replicate (2 - ds.length) '0' ++ ds

def withoutZeros (ds : List Char) : List Char :=
  (ds.reverse.dropWhile (· = '0')).reverse

def floating (l : Layout) (m : Nat) : List Char × List Char :=
  let precision := l.precision.getD 6
  match l.form with
  | 'e' | 'E' =>
    let (q, e) := significant (precision + 1) m
    let ds := Nat.toDigits 10 q
    let ds := if m = 0 then List.replicate (precision + 1) '0' else ds
    (ds.take 1, l.fraction (ds.drop 1) ++ power l.form e)
  | 'g' | 'G' =>
    let count := max precision 1
    let (q, e) := significant count m
    let ds := if m = 0 then List.replicate count '0' else Nat.toDigits 10 q
    let tail (ds : List Char) : List Char := if l.isAlternate then ds else withoutZeros ds
    if e < count then (ds.take (e + 1), l.fraction (tail (ds.drop (e + 1))))
    else (ds.take 1, l.fraction (tail (ds.drop 1)) ++ power (if l.form = 'g' then 'e' else 'E') e)
  | _ => (Nat.toDigits 10 m, l.fraction (List.replicate precision '0'))

def asDouble (l : Layout) (n : Int) : Except Fault Numeral := do
  let some whole := (Double.ofInt n).whole? | throw .tooLarge
  if 1 <<< 31 ≤ l.precision.getD 0 then throw (.refused "precision too big")
  if l.form = '%' then
    match (Double.ofInt (whole * 100)).whole? with
    | none => return { isNegative := n < 0, digits := [], rest := ['i', 'n', 'f', '%'] }
    | some hundreds =>
      let (digits, rest) := l.floating hundreds.natAbs
      return { isNegative := n < 0, digits, rest := rest ++ ['%'] }
  else
    let (digits, rest) := l.floating whole.natAbs
    return { isNegative := n < 0, digits, rest }

def asCharacter (l : Layout) (n : Int) : Except Fault Numeral := do
  if l.sign.isSome then throw (.refused "Sign not allowed with integer format specifier 'c'")
  if l.isAlternate then throw (.refused "Alternate form (#) not allowed with integer format specifier 'c'")
  if n < 0 ∨ ¬ n.toNat.isValidChar then throw .tooLarge
  return { isNegative := false, digits := [], rest := [Char.ofNat n.toNat] }

def whole (l : Layout) (kind : String) (n : Int) : Except Fault (List Char) := do
  if l.form ∈ ['e', 'E', 'f', 'F', 'g', 'G', '%'] then return (← l.asDouble n).render l
  if l.form ∉ ['b', 'c', 'd', 'o', 'x', 'X', 'n'] then throw (.unknownForm l.form kind)
  if l.precision.isSome then throw (.refused "Precision not allowed in integer format specifier")
  if l.hidesNegativeZero then
    throw (.refused "Negative zero coercion (z) not allowed in integer format specifier")
  if l.form = 'c' then return (← l.asCharacter n).render l
  return (l.inBase n).render l

end Layout

end Wiring.Text.Template
