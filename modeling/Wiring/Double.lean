import Wiring.Text.Digits

/-!
Numbers as floating point holds them: 53 binary digits, the last of which is worth no less than `2 ^ -1074`. A
quotient stands for the nearest of them, and of two equally near ones for the one with an even last digit.
-/

namespace Wiring

def roundDiv (n d : Nat) : Nat :=
  if 2 * (n % d) > d ∨ 2 * (n % d) = d ∧ n / d % 2 = 1 then n / d + 1 else n / d

/-- `mantissa * 2 ^ exponent` with a sign. The mantissa is odd, or it is zero and so is the exponent, which makes
equal numbers equal values. -/
inductive Double where
  | finite (negative : Bool) (mantissa : Nat) (exponent : Int)
  | infinite (negative : Bool)
  | notANumber
  deriving DecidableEq, Inhabited

namespace Double

def normal (negative : Bool) (m : Nat) (e : Int) : Double :=
  if m = 0 then finite negative 0 0
  else if m % 2 = 0 then normal negative (m / 2) (e + 1)
  else finite negative m e
termination_by m

def zero : Double :=
  finite false 0 0

def magnitude (base n d : Nat) (guess : Int) : Int :=
  -- The guess is right or one too high.
  if d * base.pow guess.toNat ≤ n * base.pow (-guess).toNat then guess else guess - 1

def lastPlace (n d : Nat) : Int :=
  max (magnitude 2 n d (n.log2 - d.log2) - 52) (-1074)

def ofQuotient (negative : Bool) (n d : Nat) : Double :=
  let unit := lastPlace n d
  let mantissa := roundDiv (n <<< (-unit).toNat) (d <<< unit.toNat)
  if mantissa <<< unit.toNat < 1 <<< 1024 then normal negative mantissa unit else infinite negative

def ofDecimal (negative : Bool) (mantissa : Nat) (exponent : Int) : Double :=
  let first : Int := Text.decimalLength mantissa + exponent
  if mantissa = 0 ∨ first < -330 then finite negative 0 0
  else if 330 < first then infinite negative
  else ofQuotient negative (mantissa * Nat.pow 10 exponent.toNat) (Nat.pow 10 (-exponent).toNat)

def ofInt (n : Int) : Double :=
  ofDecimal (n < 0) n.natAbs 0

def whole? : Double → Option Int
  | finite s m e =>
    if 0 ≤ e then some ((if s then -1 else 1) * (m <<< e.toNat : Nat)) else none
  | _ => none

def isZero : Double → Bool
  | finite _ m _ => m = 0
  | _ => false

def isFinite : Double → Bool
  | finite _ _ _ => true
  | _ => false

end Double

end Wiring
