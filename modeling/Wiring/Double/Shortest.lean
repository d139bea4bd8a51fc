import Wiring.Double

/-!
The fewest decimal digits that read back as a number. For each count of digits the two neighbours of the number on
that grid are tried; of two that read back the nearer one is taken, of two equally near ones the even one.
-/

namespace Wiring.Double

def neighbours (n d : Nat) (place : Int) : List Nat :=
  -- The nearer one comes first.
  let n := n * Nat.pow 10 (-place).toNat
  let d := d * Nat.pow 10 place.toNat
  let below := n / d
  if roundDiv n d = below then [below, below + 1] else [below + 1, below]

def placeFor (n d count : Nat) : Int :=
  magnitude 10 n d (Text.decimalLength n - Text.decimalLength d) - count + 1

def shortest (m : Nat) (e : Int) : Nat × Int :=
  let n := m <<< e.toNat
  let d := 1 <<< (-e).toNat
  let readsBack (count : Nat) : Option (Nat × Int) :=
    let place := placeFor n d count
    ((neighbours n d place).find? fun c => ofDecimal false c place = finite false m e).map fun c => (c, place)
  ((List.range 17).findSome? fun i => readsBack (i + 1)).getD (n / d, 0)

def reduce (m : Nat) (e : Int) : Nat × Int :=
  if m ≠ 0 ∧ m % 10 = 0 then reduce (m / 10) (e + 1) else (m, e)
termination_by m

def decimalText (m : Nat) (e : Int) : String :=
  let (m, e) := reduce m e
  let digits := Nat.toDigits 10 m
  let point : Int := digits.length + e
  if -4 < point ∧ point ≤ 16 then
    if point ≤ 0 then "0." ++ String.ofList (List.replicate (-point).toNat '0' ++ digits)
    else if e ≥ 0 then String.ofList (digits ++ List.replicate e.toNat '0') ++ ".0"
    else String.ofList (digits.take point.toNat ++ '.' :: digits.drop point.toNat)
  else
    let power := point - 1
    let tail := if digits.length ≤ 1 then [] else '.' :: digits.tail
    let magnitude := Nat.toDigits 10 power.natAbs
    let padded := if magnitude.length < 2 then '0' :: magnitude else magnitude
    String.ofList (digits.take 1 ++ tail ++ 'e' :: (if power < 0 then '-' else '+') :: padded)

def text : Double → String
  | finite s m e =>
    let (m, e) := if m = 0 then (0, 0) else shortest m e
    (if s then "-" else "") ++ if m = 0 then "0.0" else decimalText m e
  | infinite s => if s then "-inf" else "inf"
  | notANumber => "nan"

end Wiring.Double
