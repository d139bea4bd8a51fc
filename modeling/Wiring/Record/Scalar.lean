import Wiring.Named
import Wiring.Record.Reading
import Wiring.Text.Blank

/-!
Truth values, whole numbers and choices in documents. Truth values and numbers may also be written as each other
and as texts.
-/

namespace Wiring.Record

def trueWords : List String := ["true", "t", "yes", "y", "on", "1"]

def falseWords : List String := ["false", "f", "no", "n", "off", "0"]

def boolOfText? (s : String) : Option Bool :=
  let word := String.ofList (s.toList.map Char.toLower)
  if word ∈ trueWords then some true else if word ∈ falseWords then some false else none

def boolOfInt? : Int → Option Bool
  | 0 => some false
  | 1 => some true
  | _ => none

def wordLimit : Nat :=
  1 <<< 63

def isWord (n : Int) : Bool :=
  -wordLimit ≤ n && n < wordLimit

def wholeOfDecimal (d : Double) : Except IssueKind Int :=
  match d.whole? with
  | none => .error (if d.isFinite then .intHasFraction else .intNotFinite)
  | some n => if n.natAbs < wordLimit then .ok n else .error .intTooLarge

def decodeBool : Json → Reading Bool
  | .bool b => .accepted b
  | .integer n => if isWord n then ofOption (boolOfInt? n) else .refuse .boolExpected
  | .decimal d =>
    match wholeOfDecimal d with
    | .ok n => ofOption (boolOfInt? n)
    | .error _ => .refuse .boolExpected
  | .string s => ofOption (boolOfText? s)
  | _ => .refuse .boolExpected
where
  ofOption : Option Bool → Reading Bool
    | some b => .accepted b
    | none => .refuse .boolUnreadable

/-! Whole numbers in texts. Blanks around a number do not count, nor do zeros and underscores in front of it, a
fraction of zeros, and single underscores within. -/

def afterPlus? : List Char → Option (List Char)
  | '+' :: '-' :: _ => none
  | '+' :: r => some r
  | r => some r

def afterZeros? (last : Char) : List Char → Option (List Char)
  | [] => some [last]
  | c :: r =>
    if c = '0' ∨ c = '_' then afterZeros? c r
    else if c = '.' then some (last :: c :: r)
    else if c.isDigit ∨ c = '-' then some (c :: r)
    else none

def withoutZeros? : List Char → Option (List Char)
  | '0' :: r => afterZeros? '0' r
  | c :: r => if c.isDigit ∨ c = '-' then some (c :: r) else none
  | [] => none

def significant? : List Char → Option (List Char)
  | '-' :: r => (withoutZeros? r).map ('-' :: ·)
  | r => withoutZeros? r

def withoutFraction? (cs : List Char) : Option (List Char) :=
  match cs.dropWhile (· ≠ '.') with
  | [] => some cs
  | _ :: zeros =>
    if zeros ≠ [] ∧ zeros.all (· = '0') then some (cs.takeWhile (· ≠ '.')) else none

def hasDoubled (mark : Char) : List Char → Bool
  | a :: b :: r => (a = mark && b = mark) || hasDoubled mark (b :: r)
  | _ => false

def withoutUnderscores (cs : List Char) : List Char :=
  if cs.head? = some '_' ∨ cs.getLast? = some '_' ∨ hasDoubled '_' cs then cs else cs.filter (· ≠ '_')

def natOfText? (cs : List Char) : Option Nat :=
  if cs ≠ [] ∧ cs.all Char.isDigit ∧ (cs.head? = some '0' → cs.length = 1) then some (Text.natOfDigits cs) else none

def intOfText? : List Char → Option Int
  | '-' :: r => (natOfText? r).map fun n => -(n : Int)
  | r => (natOfText? r).map fun n => (n : Int)

def intCore? (s : String) : Option (List Char) := do
  let cs ← afterPlus? (Text.trimBlanks s.toList)
  let cs ← significant? cs
  return withoutUnderscores (← withoutFraction? cs)

def decodeIntText (s : String) : Reading Int :=
  match intCore? s with
  | none => .refuse .intUnreadable
  | some cs =>
    if Json.Parser.longestNumber < (String.ofList cs).utf8ByteSize then .refuse .intTooLarge
    else match intOfText? cs with
      | some n => .accepted n
      | none => .refuse .intUnreadable

def decodeInt : Json → Reading Int
  | .integer n => .accepted n
  | .bool b => .accepted (if b then 1 else 0)
  | .decimal d =>
    match wholeOfDecimal d with
    | .ok n => .accepted n
    | .error kind => .refuse kind
  | .string s => decodeIntText s
  | _ => .refuse .intExpected

instance : Codec Bool where
  decode := decodeBool
  encode := .bool

instance : Codec Int where
  decode := decodeInt
  encode := .integer

def decodeNamed {α : Type} [Named α] : Json → Reading α
  | .string s =>
    match Named.ofText? s with
    | some a => .accepted a
    | none => .refuse .notAChoice
  | _ => .refuse .notAChoice

instance {α : Type} [Named α] : Codec α where
  decode := decodeNamed
  encode a := .string (Named.text a)

end Wiring.Record
