/-!
A text as its common characters with one number behind them that says where all others go: the differences between
their places, in order of their code points, in digits whose weights adapt to how far the places lie apart.
-/

namespace Wiring.Encoding.Punycode

def digitOf (n : Nat) : Char :=
  Char.ofNat (if n < 26 then 97 + n else 48 + (n - 26))

def threshold (weight bias : Nat) : Nat :=
  if weight ≤ bias then 1 else if bias + 26 ≤ weight then 26 else weight - bias

theorem threshold_pos (weight bias : Nat) : 1 ≤ threshold weight bias := by
  unfold threshold
  split
  · omega
  · split <;> omega

def digits (bias weight n : Nat) : List Char :=
  let t := threshold weight bias
  if n < t then [digitOf n]
  else digitOf (t + (n - t) % (36 - t)) :: digits bias (weight + 36) ((n - t) / (36 - t))
termination_by n
decreasing_by
  have h := threshold_pos weight bias
  exact Nat.lt_of_le_of_lt (Nat.div_le_self _ _) (by omega)

def scaled (n weight : Nat) : Nat × Nat :=
  if 455 < n then scaled (n / 35) (weight + 36) else (n, weight)
termination_by n
decreasing_by omega

def adapted (n count : Nat) (isFirst : Bool) : Nat :=
  let n := if isFirst then n / 700 else n / 2
  let (n, weight) := scaled (n + n / count) 0
  weight + 36 * n / (n + 38)

structure Progress where
  written : List Char := []
  delta : Nat := 0
  bias : Nat := 72
  count : Nat

def pass (common n : Nat) (p : Progress) (c : Char) : Progress :=
  if c.toNat < n then { p with delta := p.delta + 1 }
  else if c.toNat = n then {
    written := p.written ++ digits p.bias 36 p.delta
    delta := 0
    bias := adapted p.delta (p.count + 1) (p.count = common)
    count := p.count + 1 }
  else p

def place (text : List Char) (common : Nat) : Nat → List Nat → Progress → Progress
  | _, [], p => p
  | next, n :: r, p =>
    let p := text.foldl (pass common n) { p with delta := p.delta + (n - next) * (p.count + 1) }
    place text common (n + 1) r { p with delta := p.delta + 1 }

def encode (text : List Char) : List Char :=
  let common := text.filter fun c => c.toNat < 128
  let others := ((text.filter fun c => 128 ≤ c.toNat).map Char.toNat).mergeSort.eraseDups
  common ++ (if common = [] then [] else ['-']) ++
    (place text common.length 128 others { count := common.length }).written

end Wiring.Encoding.Punycode
