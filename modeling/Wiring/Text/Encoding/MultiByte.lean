import Wiring.Assoc
import Wiring.Text.Encoding.Chinese
import Wiring.Text.Encoding.Japanese
import Wiring.Text.Encoding.Korean

/-!
Encodings with more bytes to a letter than one. Some say in between which set of letters the bytes after that are
to be read by, and so remember the set that they are in.
-/

namespace Wiring.Encoding

inductive MultiByte where
  | traditional
  | vendorTraditional
  | simplified
  | extendedSimplified
  | fullSimplified
  | tildeSimplified
  | unixJapanese
  | shiftJapanese
  | vendorJapanese
  | switchedJapanese
  | switchedJapanese1
  | switchedJapanese2
  | switchedJapaneseMore
  | unixKorean
  | unifiedKorean
  | combinedKorean
  | switchedKorean
  | hongKong
  | laterUnixJapanese (edition : Japanese.Edition)
  | laterShiftJapanese (edition : Japanese.Edition)
  | laterSwitchedJapanese (edition : Japanese.Edition)
  deriving DecidableEq

namespace MultiByte

def names : List (String × MultiByte) :=
  [("big5", .traditional), ("cp950", .vendorTraditional), ("gb2312", .simplified), ("gbk", .extendedSimplified),
    ("gb18030", .fullSimplified), ("hz", .tildeSimplified), ("euc_jp", .unixJapanese),
    ("shift_jis", .shiftJapanese), ("cp932", .vendorJapanese), ("iso2022_jp", .switchedJapanese),
    ("iso2022_jp_1", .switchedJapanese1), ("iso2022_jp_2", .switchedJapanese2),
    ("iso2022_jp_ext", .switchedJapaneseMore), ("euc_kr", .unixKorean), ("cp949", .unifiedKorean),
    ("johab", .combinedKorean), ("iso2022_kr", .switchedKorean),
    ("big5hkscs", .hongKong), ("euc_jisx0213", .laterUnixJapanese .first),
    ("euc_jis_2004", .laterUnixJapanese .second), ("shift_jisx0213", .laterShiftJapanese .first),
    ("shift_jis_2004", .laterShiftJapanese .second), ("iso2022_jp_3", .laterSwitchedJapanese .first),
    ("iso2022_jp_2004", .laterSwitchedJapanese .second)]

def name (e : MultiByte) : String :=
  ((names.find? fun n => n.2 = e).map Prod.fst).getD ""

inductive LetterSet where
  | ascii
  | roman
  | narrow
  | japanese
  | moreJapanese
  | korean
  | chinese
  | firstPlane (edition : Japanese.Edition)
  | secondPlane (edition : Japanese.Edition)
  deriving DecidableEq

structure Shift where
  inUse : LetterSet := .ascii
  isOther : Bool := false
  other : Option LetterSet := none
  deriving DecidableEq

def escape : UInt8 :=
  0x1b

def shiftOut : UInt8 :=
  0x0e

def shiftIn : UInt8 :=
  0x0f

def charByte (c : Char) : UInt8 :=
  byte c.toNat

namespace LetterSet

def announcement : LetterSet → List UInt8
  | .ascii => [escape, charByte '(', charByte 'B']
  | .roman => [escape, charByte '(', charByte 'J']
  | .narrow => [escape, charByte '(', charByte 'I']
  | .japanese => [escape, charByte '$', charByte 'B']
  | .moreJapanese => [escape, charByte '$', charByte '(', charByte 'D']
  | .korean => [escape, charByte '$', charByte '(', charByte 'C']
  | .chinese => [escape, charByte '$', charByte '(', charByte 'A']
  | .firstPlane .first => [escape, charByte '$', charByte '(', charByte 'O']
  | .firstPlane .second => [escape, charByte '$', charByte '(', charByte 'Q']
  | .secondPlane _ => [escape, charByte '$', charByte '(', charByte 'P']

def bytes? (s : LetterSet) (c : Char) : Option (List UInt8) :=
  match s with
  | .ascii => if c.toNat < 128 then some [charByte c] else none
  | .roman => (Japanese.roman? c).map fun b => [b]
  | .narrow => (Japanese.narrow? c).map fun b => [b - 0x80]
  | .japanese => (Japanese.letters.cell? c).map (square 0x21)
  | .moreJapanese => (Japanese.supplement.cell? c).map (square 0x21)
  | .korean => (Korean.letters.cell? c).map (square 0x21)
  | .chinese => (Chinese.letters.cell? c).map (square 0x21)
  | .firstPlane e => (e.firstPlane? c).map (square 0x21)
  | .secondPlane e => (e.secondPlane? c).map (square 0x21)

end LetterSet

def switchTo (set : LetterSet) (s : Shift) (bs : List UInt8) : List UInt8 × Shift :=
  (if s.inUse = set then bs else set.announcement ++ bs, { s with inUse := set })

def switched (sets : List LetterSet) (s : Shift) (c : Char) : Option (List UInt8 × Shift) :=
  (LetterSet.ascii :: sets).findSome? fun set => (set.bytes? c).map (switchTo set s)

def switchedKoreanStep (s : Shift) (c : Char) : Option (List UInt8 × Shift) :=
  if c.toNat < 128 then
    some (if s.isOther then [shiftIn, charByte c] else [charByte c], { s with isOther := false })
  else
    (LetterSet.korean.bytes? c).map fun bs =>
      ((if s.other = some .korean then [] else [escape, charByte '$', charByte ')', charByte 'C']) ++
        (if s.isOther then bs else shiftOut :: bs),
      { s with isOther := true, other := some .korean })

def tildeStep (s : Shift) (c : Char) : Option (List UInt8 × Shift) :=
  let tilde := charByte '~'
  if c.toNat < 128 then
    let bs := if c = '~' then [tilde, tilde] else [charByte c]
    some (if s.isOther then tilde :: charByte '\x7d' :: bs else bs, { s with isOther := false })
  else
    (LetterSet.chinese.bytes? c).map fun bs =>
      (if s.isOther then bs else tilde :: charByte '\x7b' :: bs, { s with isOther := true })

def letter? : MultiByte → Char → Option (List UInt8)
  | .traditional, c => Chinese.traditional? c
  | .vendorTraditional, c => Chinese.vendorTraditional? c
  | .simplified, c => Chinese.common? c
  | .extendedSimplified, c => Chinese.extended? c
  | .fullSimplified, c => some (Chinese.full c)
  | .unixJapanese, c => Japanese.extendedUnix? c
  | .shiftJapanese, c => Japanese.shift? c
  | .vendorJapanese, c => Japanese.vendorShift? c
  | .unixKorean, c => Korean.extendedUnix? c
  | .unifiedKorean, c => Korean.unified? c
  | .combinedKorean, c => Korean.combined? c
  | .hongKong, c => Chinese.hongKong? c
  | .laterUnixJapanese e, c => e.unix? c
  | _, _ => none

def step (e : MultiByte) (s : Shift) (c : Char) : Option (List UInt8 × Shift) :=
  match e with
  | .tildeSimplified => tildeStep s c
  | .switchedJapanese => switched [.japanese, .roman] s c
  | .switchedJapanese1 => switched [.japanese, .moreJapanese, .roman] s c
  | .switchedJapanese2 => switched [.japanese, .moreJapanese, .korean, .chinese, .roman] s c
  | .switchedJapaneseMore => switched [.japanese, .moreJapanese, .roman, .narrow] s c
  | .laterSwitchedJapanese e => switched [.japanese, .firstPlane e, .secondPlane e] s c
  | .switchedKorean => switchedKoreanStep s c
  | .laterShiftJapanese edition =>
    if c.toNat < 128 ∧ (Japanese.wideCell? c).isNone then some ([charByte c], s)
    else (edition.shift? c).map fun bs => (bs, s)
  | e =>
    if c.toNat < 128 then some ([charByte c], s) else (e.letter? c).map fun bs => (bs, s)

def pairs : MultiByte → List ((Char × Char) × Nat)
  | .hongKong => Chinese.hongKongPairs
  | .laterUnixJapanese _ | .laterShiftJapanese _ => Japanese.pairs
  | _ => []

def isWaiting (e : MultiByte) (c : Char) : Bool :=
  -- Where sets are switched to a letter waits as well, but is never one with another.
  let pairs := match e with
    | .laterSwitchedJapanese _ => Japanese.pairs
    | e => e.pairs
  pairs.any fun p => p.1.1 = c

def joined? (e : MultiByte) (c d : Char) : Option Nat :=
  -- The later Japanese sets have none for a letter that waits and a null, but take the null for the end of it.
  match Assoc.find? (c, d) e.pairs with
  | some cell => some cell
  | none =>
    if d = '\x00' ∧ e ≠ .hongKong ∧ e.pairs.any (·.1.1 = c) then Japanese.Edition.anyFirstPlane? .second c else none

def pair? (e : MultiByte) (s : Shift) (c d : Char) : Option (List UInt8 × Shift) :=
  (e.joined? c d).map fun cell =>
    match e with
    | .hongKong => (Chinese.hongKongCell cell, s)
    | .laterShiftJapanese _ => (Japanese.shifted cell, s)
    | _ => (square 0xa1 cell, s)

def encodeFrom (e : MultiByte) (s : Shift) (place : Nat) : List Char → Except (Nat × Char) (List UInt8)
  -- A letter that waits when the text ends is left out.
  | [] => .ok []
  | [c] =>
    if e.isWaiting c then .ok []
    else match e.step s c with
      | none => .error (place, c)
      | some (bs, _) => .ok bs
  | c :: d :: r =>
    match e.pair? s c d with
    | some (bs, s) => do return bs ++ (← encodeFrom e s (place + 2) r)
    | none =>
      match e.step s c with
      | none => .error (place, c)
      | some (bs, s) => do return bs ++ (← encodeFrom e s (place + 1) (d :: r))

end MultiByte

end Wiring.Encoding
