import Wiring.Text.Encoding.Grid

/-!
A text in common characters alone: all others stand as 64-valued digits between a plus sign and a minus sign, or
whatever can be no such digit.
-/

namespace Wiring.Encoding.Sextets

def units16 (c : Char) : List Nat :=
  let n := c.toNat
  if n < 0x10000 then [n] else [0xd800 + (n - 0x10000) / 0x400, 0xdc00 + (n - 0x10000) % 0x400]

def digits : List Char :=
  "ABCDEFGHIJKLMNOPQRSTUVWXYZabcdefghijklmnopqrstuvwxyz0123456789+/".toList

def isDirect (c : Char) : Bool :=
  if c.toNat < 32 then c ∈ ['\t', '\n', '\r'] else c.toNat < 127 && c ∉ ['+', '\\', '~']

def bits (width n : Nat) : List Bool :=
  (List.range width).reverse.map n.testBit

def ofBits : List Bool → List Char
  | a :: b :: c :: d :: e :: f :: r => digit [a, b, c, d, e, f] :: ofBits r
  | [] => []
  | rest => [digit (rest ++ List.replicate (6 - rest.length) false)]
where
  digit (bs : List Bool) : Char :=
    digits[bs.foldl (fun n b => 2 * n + b.toNat) 0]?.getD 'A'

def ofRun (run : List Char) : List Char :=
  ofBits ((run.flatMap units16).flatMap (bits 16))

def close : List Char → List Char
  -- An end that could be taken for one more digit is marked.
  | [] => ['-']
  | c :: _ => if c ∈ digits ∨ c = '-' then ['-'] else []

def encode : List Char → List Char
  | [] => []
  | c :: r =>
    if isDirect c then c :: encode r
    else if c = '+' then '+' :: '-' :: encode r
    else
      let rest := r.dropWhile fun d => !isDirect d
      '+' :: ofRun (c :: r.takeWhile fun d => !isDirect d) ++ close rest ++ encode rest
termination_by cs => cs.length
decreasing_by
  · simp
  · simp
  · have rest_le : (r.dropWhile fun d => !isDirect d).length ≤ r.length :=
      (List.dropWhile_sublist _).length_le
    simp only [List.length_cons]
    omega

end Wiring.Encoding.Sextets
