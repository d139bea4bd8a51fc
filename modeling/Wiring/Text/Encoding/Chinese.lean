import Wiring.Text.Encoding.Chinese.HongKong
import Wiring.Text.Encoding.Chinese.Table

/-!
Chinese letters in bytes. The extended set keeps the common one and fills the cells around it with the other
ideographs in their order; the full set has four bytes for everything else.
-/

namespace Wiring.Encoding.Chinese

def common? (c : Char) : Option (List UInt8) :=
  (letters.cell? c).map (square 0xa1)

def wide (base width cell : Nat) : List UInt8 :=
  let trail := 0x40 + cell % width
  [byte (base + cell / width), byte (if 0x7f ≤ trail then trail + 1 else trail)]

def isIdeograph (n : Nat) : Bool :=
  0x4e00 ≤ n && n ≤ 0x9fa5

def rank? (c : Char) : Option Nat :=
  let others (n : Nat) : Nat :=
    n - 0x4e00 - letters.letters.countP fun d => isIdeograph d.toNat && d.toNat < n
  if isIdeograph c.toNat then some (others c.toNat)
  else (compatibilityIdeographs.cell? c).map fun i => others 0x9fa6 + i

def other (rank : Nat) : List UInt8 :=
  let above := 32 * 190
  if rank < above then wide 0x81 190 rank else wide 0xaa 96 (rank - above)

def extended? (c : Char) : Option (List UInt8) :=
  if c = '\u30fb' then none
  else
    (moreLetters.cell? c).map (wide 0x81 190) <|> common? c <|> (rank? c).map other

def privateCell? (c : Char) : Option Nat :=
  privateRuns.findSome? fun (cell, first, count) =>
    if first ≤ c.toNat ∧ c.toNat < first + count then some (cell + (c.toNat - first)) else none

def fourBytes (number : Nat) : List UInt8 :=
  [byte (0x81 + number / 12600), byte (0x30 + number / 1260 % 10), byte (0x81 + number / 10 % 126),
    byte (0x30 + number % 10)]

def farNumber (n : Nat) : Nat :=
  if 0x10000 ≤ n then 189000 + (n - 0x10000)
  else match farRuns.reverse.find? fun run => run.1 ≤ n with
    | some (first, number) => number + (n - first)
    | none => 0

def full (c : Char) : List UInt8 :=
  let near := ((lateLetters.cell? c <|> privateCell? c).map (wide 0x81 190)) <|> extended? c
  near.getD (fourBytes (farNumber c.toNat))

def oblong (base cell : Nat) : List UInt8 :=
  let place := cell % 157
  [byte (base + cell / 157), byte (if place < 63 then 0x40 + place else 0xa1 + (place - 63))]

def traditional? (c : Char) : Option (List UInt8) :=
  (traditional.cell? c).map (oblong 0xa1)

def vendorTraditional? (c : Char) : Option (List UInt8) :=
  (vendorTraditional.cell? c <|> traditional.cell? c).map (oblong 0xa1)

def hongKongCell : Nat → List UInt8 :=
  oblong 0x87

def hongKong? (c : Char) : Option (List UInt8) :=
  (hongKong.cell? c).map hongKongCell <|> traditional? c

def hongKongPairs : List ((Char × Char) × Nat) :=
  [(('\u00ca', '\u0304'), 191), (('\u00ca', '\u030c'), 193), (('\u00ea', '\u0304'), 222),
    (('\u00ea', '\u030c'), 224)]

end Wiring.Encoding.Chinese
