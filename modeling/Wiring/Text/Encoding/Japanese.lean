import Wiring.Text.Encoding.Japanese.Extension
import Wiring.Text.Encoding.Japanese.Table

/-!
Japanese letters in bytes. Half as wide as the others are the syllables that one byte has room for.
-/

namespace Wiring.Encoding.Japanese

def narrow? (c : Char) : Option UInt8 :=
  if 0xff61 ≤ c.toNat ∧ c.toNat ≤ 0xff9f then some (byte (c.toNat - 0xfec0)) else none

def roman? : Char → Option UInt8
  | '\u00a5' => some 0x5c
  | '\u203e' => some 0x7e
  | _ => none

def shifted (cell : Nat) : List UInt8 :=
  let row := cell / 94
  let lead := 0x81 + row / 2
  let trail := if row % 2 = 0 then 0x40 + cell % 94 else 0x9f + cell % 94
  [byte (if 0x9f < lead then lead + 0x40 else lead),
    byte (if row % 2 = 0 ∧ 0x7f ≤ trail then trail + 1 else trail)]

def extendedUnix? (c : Char) : Option (List UInt8) :=
  match roman? c, narrow? c, letters.cell? c, supplement.cell? c with
  | some b, _, _, _ => some [b]
  | none, some b, _, _ => some [0x8e, b]
  | none, none, some cell, _ => some (square 0xa1 cell)
  | none, none, none, some cell => some (0x8f :: square 0xa1 cell)
  | none, none, none, none => none

def shift? (c : Char) : Option (List UInt8) :=
  match roman? c, narrow? c, letters.cell? c with
  | some b, _, _ | none, some b, _ => some [b]
  | none, none, some cell => some (shifted cell)
  | none, none, none => none

def vendorByte? (c : Char) : Option UInt8 :=
  match c.toNat with
  | 0x80 => some 0x80
  | 0xf8f0 => some 0xa0
  | n => if 0xf8f1 ≤ n ∧ n ≤ 0xf8f3 then some (byte (n - 0xf8f1 + 0xfd)) else none

def privateCell? (c : Char) : Option Nat :=
  if 0xe000 ≤ c.toNat ∧ c.toNat < 0xe758 then some (94 * 94 + (c.toNat - 0xe000)) else none

def vendorShift? (c : Char) : Option (List UInt8) :=
  match vendorByte? c <|> narrow? c with
  | some b => some [b]
  | none => (letters.cell? c <|> vendorLetters.cell? c <|> privateCell? c).map shifted

inductive Edition where
  | first
  | second
  deriving DecidableEq

def newLetters : List Char :=
  "俱剝吞噓姸屛幷瘦繫𠮟".toList

namespace Edition

def firstPlane? (e : Edition) (c : Char) : Option Nat :=
  if e = .first ∧ c ∈ newLetters then none else extension.cell? c

def secondPlane? (e : Edition) (c : Char) : Option Nat :=
  match e, c with
  | .first, '\u9b1c' => none
  | .first, '\u9b1d' => secondPlane.cell? '\u9b1c'
  | _, c => secondPlane.cell? c

def anyFirstPlane? (e : Edition) (c : Char) : Option Nat :=
  e.firstPlane? c <|> letters.cell? c

def unix? (e : Edition) (c : Char) : Option (List UInt8) :=
  match narrow? c, if c = '\uff5e' then some 111 else e.anyFirstPlane? c, e.secondPlane? c <|> supplement.cell? c with
  | some b, _, _ => some [0x8e, b]
  | none, some cell, _ => some (square 0xa1 cell)
  | none, none, some cell => some (0x8f :: square 0xa1 cell)
  | none, none, none => none

def rowsAfter : List Nat :=
  [0, 7, 2, 3, 4, 11, 12, 13, 14] ++ List.range' 77 17

end Edition

def wideCell? : Char → Option Nat
  | '\\' => some 31
  | '~' => some 111
  | _ => none

namespace Edition

def shift? (e : Edition) (c : Char) : Option (List UInt8) :=
  let common := if c = '\uff3c' then none else e.anyFirstPlane? c
  match roman? c <|> narrow? c, wideCell? c <|> common, e.secondPlane? c with
  | some b, _, _ => some [b]
  | none, some cell, _ => some (shifted cell)
  | none, none, some cell => some (shifted ((94 + rowsAfter.idxOf (cell / 94)) * 94 + cell % 94))
  | none, none, none => none

end Edition

def pairs : List ((Char × Char) × Nat) :=
  [(('\u00e6', '\u0300'), 975), (('\u0254', '\u0300'), 979), (('\u0254', '\u0301'), 980),
    (('\u0259', '\u0300'), 983), (('\u0259', '\u0301'), 984), (('\u025a', '\u0300'), 985),
    (('\u025a', '\u0301'), 986), (('\u028c', '\u0300'), 981), (('\u028c', '\u0301'), 982),
    (('\u02e5', '\u02e9'), 1009), (('\u02e9', '\u02e5'), 1008), (('\u304b', '\u309a'), 368),
    (('\u304d', '\u309a'), 369), (('\u304f', '\u309a'), 370), (('\u3051', '\u309a'), 371),
    (('\u3053', '\u309a'), 372), (('\u30ab', '\u309a'), 462), (('\u30ad', '\u309a'), 463),
    (('\u30af', '\u309a'), 464), (('\u30b1', '\u309a'), 465), (('\u30b3', '\u309a'), 466),
    (('\u30bb', '\u309a'), 467), (('\u30c4', '\u309a'), 468), (('\u30c8', '\u309a'), 469),
    (('\u31f7', '\u309a'), 557)]

end Wiring.Encoding.Japanese
