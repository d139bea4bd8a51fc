import Wiring.Text.Normalization.Table

/-!
Texts that are written differently and are the same: every character is taken apart, the marks are put in order, and
what belongs together is put together again.
-/

namespace Wiring.Text.Normalization

def hexValue (s : String) : Nat :=
  s.toList.foldl (fun n c => 16 * n + if c.isDigit then c.toNat - '0'.toNat else c.toNat - 'a'.toNat + 10) 0

structure Entry where
  first : Nat
  last : Nat
  values : List Nat

def Entry.ofText (s : String) : Entry :=
  let (place, values) := match s.splitOn ":" with
    | [p, v] => (p, v)
    | _ => (s, "")
  let (first, last) := match place.splitOn "-" with
    | [a, b] => (a, b)
    | _ => (place, place)
  { first := hexValue first, last := hexValue last, values := (values.splitOn ".").map hexValue }

def entries (table : List String) : List Entry :=
  (table.flatMap (·.splitOn " ")).map Entry.ofText

def row? (es : List Entry) (n : Nat) : Option Entry :=
  es.find? fun e => e.first ≤ n ∧ n ≤ e.last

def decompositions : List Entry :=
  entries decompositionTable

def compositions : List Entry :=
  entries compositionTable

def classes : List Entry :=
  entries classTable

def syllables : Nat :=
  -- Put together from up to three parts by a rule: from one of 19, one of 21 and none or one of 27.
  0xac00

def isSyllable (n : Nat) : Bool :=
  syllables ≤ n && n < syllables + 19 * 21 * 28

def parts (n : Nat) : List Nat :=
  let i := n - syllables
  [0x1100 + i / 588, 0x1161 + i % 588 / 28] ++ if i % 28 = 0 then [] else [0x11a7 + i % 28]

def decompose (n : Nat) : List Nat :=
  if n < 0x80 then [n]
  else if isSyllable n then parts n
  else match row? decompositions n with
    | some e =>
      match e.values with
      | [v] => [v + (n - e.first)]
      | vs => vs
    | none => [n]

def classOf (n : Nat) : Nat :=
  ((row? classes n).map fun e => e.values.headD 0).getD 0

def join? (a b : Nat) : Option Nat :=
  if 0x1100 ≤ a ∧ a < 0x1113 ∧ 0x1161 ≤ b ∧ b < 0x1176 then some (syllables + (a - 0x1100) * 588 + (b - 0x1161) * 28)
  else if isSyllable a ∧ (a - syllables) % 28 = 0 ∧ 0x11a8 ≤ b ∧ b < 0x11c3 then some (a + (b - 0x11a7))
  else (compositions.find? fun e => e.values = [a, b]).map (·.first)

def ordered : List (Nat × Nat) → List (Nat × Nat)
  | [] => []
  | c :: r => insert c (ordered r)
where
  insert (c : Nat × Nat) : List (Nat × Nat) → List (Nat × Nat)
    | [] => [c]
    | d :: r => if c.2 ≠ 0 ∧ d.2 ≠ 0 ∧ d.2 < c.2 then d :: insert c r else c :: d :: r

structure Joining where
  -- Backwards: what stands before the last character without a class, that character, and the marks behind it.
  done : List Nat := []
  base : Option Nat := none
  marks : List (Nat × Nat) := []

namespace Joining

def flush (j : Joining) : List Nat :=
  j.marks.map Prod.fst ++ j.base.toList ++ j.done

def push (j : Joining) (c : Nat × Nat) : Joining :=
  let reaches := match j.marks with
    | [] => true
    | m :: _ => m.2 < c.2
  match j.base.bind fun b => if reaches then join? b c.1 else none with
  | some joined => { j with base := some joined }
  | none =>
    if c.2 = 0 then { done := j.flush, base := some c.1 }
    else { j with marks := c :: j.marks }

end Joining

def compose (apart : List Nat) : List Char :=
  ((ordered (apart.map fun n => (n, classOf n))).foldl Joining.push {}).flush.reverse.map Char.ofNat

def normalize (cs : List Char) : List Char :=
  compose (cs.flatMap fun c => decompose c.toNat)

end Wiring.Text.Normalization

namespace Wiring.Text

def normalized (s : String) : String :=
  if s.toList.all fun c => c.toNat < 0x80 then s else String.ofList (Normalization.normalize s.toList)

end Wiring.Text
