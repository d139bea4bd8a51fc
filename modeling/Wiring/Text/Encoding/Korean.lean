import Wiring.Text.Encoding.Korean.Table

/-!
Korean letters in bytes. A syllable is made of a first consonant, a vowel and perhaps a last consonant; those that
the common set lacks are written by their parts, by a rank of their own, or, with all the others, as a number.
-/

namespace Wiring.Encoding.Korean

def common? (c : Char) : Option (List UInt8) :=
  (letters.cell? c).map (square 0xa1)

def parts? (c : Char) : Option (Nat × Nat × Nat) :=
  let n := c.toNat - 0xac00
  if 0xac00 ≤ c.toNat ∧ c.toNat ≤ 0xd7a3 then some (n / 588, n / 28 % 21, n % 28) else none

def pick (table : List UInt8) (i : Nat) : UInt8 :=
  table[i]?.getD 0

def firstLetters : List UInt8 :=
  [0xa1, 0xa2, 0xa4, 0xa7, 0xa8, 0xa9, 0xb1, 0xb2, 0xb3, 0xb5, 0xb6, 0xb7, 0xb8, 0xb9, 0xba, 0xbb, 0xbc, 0xbd, 0xbe]

def lastLetters : List UInt8 :=
  [0xd4, 0xa1, 0xa2, 0xa3, 0xa4, 0xa5, 0xa6, 0xa7, 0xa9, 0xaa, 0xab, 0xac, 0xad, 0xae, 0xaf, 0xb0, 0xb1, 0xb2,
    0xb4, 0xb5, 0xb6, 0xb7, 0xb8, 0xba, 0xbb, 0xbc, 0xbd, 0xbe]

def spelled (parts : Nat × Nat × Nat) : List UInt8 :=
  let (first, vowel, last) := parts
  [0xa4, 0xd4, 0xa4, pick firstLetters first, 0xa4, byte (0xbf + vowel), 0xa4, pick lastLetters last]

def extendedUnix? (c : Char) : Option (List UInt8) :=
  common? c <|> (parts? c).map spelled

def rank? (c : Char) : Option Nat :=
  let before (d : Char) : Bool := 0xac00 ≤ d.toNat && d.toNat < c.toNat && (parts? d).isSome
  (parts? c).map fun _ => c.toNat - 0xac00 - letters.letters.countP before

def ranked (rank : Nat) : List UInt8 :=
  let above := 32 * 178
  let (lead, place) :=
    if rank < above then (0x81 + rank / 178, rank % 178)
    else (0xa1 + (rank - above) / 84, (rank - above) % 84)
  let trail := if place < 26 then 0x41 + place else if place < 52 then 0x61 + (place - 26) else 0x81 + (place - 52)
  [byte lead, byte trail]

def unified? (c : Char) : Option (List UInt8) :=
  common? c <|> (rank? c).map ranked

def vowelCodes : List Nat :=
  [3, 4, 5, 6, 7, 10, 11, 12, 13, 14, 15, 18, 19, 20, 21, 22, 23, 26, 27, 28, 29]

def packed (first vowel last : Nat) : List UInt8 :=
  let n := 0x8000 + first * 1024 + vowel * 32 + last
  [byte (n / 256), byte (n % 256)]

def packedParts (parts : Nat × Nat × Nat) : List UInt8 :=
  let (first, vowel, last) := parts
  packed (first + 2) (vowelCodes[vowel]?.getD 0) (if last < 17 then last + 1 else last + 2)

def packedLetter? (c : Char) : Option (List UInt8) :=
  let n := c.toNat
  if 0x314f ≤ n ∧ n ≤ 0x3163 then some (packed 1 (vowelCodes[n - 0x314f]?.getD 0) 1)
  else if 0x3131 ≤ n ∧ n ≤ 0x314e then
    let letter := byte (n - 0x3131 + 0xa1)
    match firstLetters.idxOf? letter, lastLetters.idxOf? letter with
    | some first, _ => some (packed (first + 2) 2 1)
    | none, some last => some (packed 1 2 (if last < 17 then last + 1 else last + 2))
    | none, none => none
  else none

def combined (cell : Nat) : List UInt8 :=
  let row := cell / 94 + (if cell / 94 < 41 then 0x1b2 else 0x197)
  let place := (if row % 2 = 1 then 94 else 0) + cell % 94
  [byte (row / 2), byte (if place < 0x4e then place + 0x31 else place + 0x43)]

def combined? (c : Char) : Option (List UInt8) :=
  (parts? c).map packedParts <|> packedLetter? c <|> (letters.cell? c).map combined

end Wiring.Encoding.Korean
