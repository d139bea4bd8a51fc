import Wiring.Json
import Wiring.Text.Digits

/-!
Reading a document from its text. The grammar is the strict one, with words for numbers that are not finite: no
comments, no trailing commas, nothing but blanks around the value. Every reader returns the value and what is
left. Values nested too deep and numbers with too many digits are refused. A name that stands twice in an object
keeps its place and takes the later value.
-/

namespace Wiring.Json.Parser

abbrev Reader (α : Type) := List Char → Option (α × List Char)

def isBlank (c : Char) : Bool :=
  c = ' ' || c = '\n' || c = '\r' || c = '\t'

def skipBlanks (cs : List Char) : List Char :=
  cs.dropWhile isBlank

def hexDigit? (c : Char) : Option Nat :=
  if c.isDigit then some (Text.digitValue c)
  else if 'a' ≤ c ∧ c ≤ 'f' then some (c.toNat - 'a'.toNat + 10)
  else if 'A' ≤ c ∧ c ≤ 'F' then some (c.toNat - 'A'.toNat + 10)
  else none

def hexQuad? (a b c d : Char) : Option Nat := do
  let a ← hexDigit? a
  let b ← hexDigit? b
  let c ← hexDigit? c
  let d ← hexDigit? d
  return ((a * 16 + b) * 16 + c) * 16 + d

def isHighSurrogate (n : Nat) : Bool :=
  0xD800 ≤ n && n < 0xDC00

def isLowSurrogate (n : Nat) : Bool :=
  0xDC00 ≤ n && n < 0xE000

def plainEscape? : Char → Option Char
  | '"' => some '"'
  | '\\' => some '\\'
  | '/' => some '/'
  | 'b' => some '\x08'
  | 'f' => some '\x0c'
  | 'n' => some '\n'
  | 'r' => some '\r'
  | 't' => some '\t'
  | _ => none

def stringTail (acc : List Char) : Reader String
  | [] => none
  | '"' :: rest => some (String.ofList acc.reverse, rest)
  | '\\' :: 'u' :: a :: b :: c :: d :: rest =>
    match hexQuad? a b c d with
    | none => none
    | some n =>
      if isHighSurrogate n then
        match rest with
        | '\\' :: 'u' :: a :: b :: c :: d :: rest =>
          match hexQuad? a b c d with
          | none => none
          | some m =>
            if isLowSurrogate m then
              stringTail (Char.ofNat (0x10000 + (n - 0xD800) * 0x400 + (m - 0xDC00)) :: acc) rest
            else none
        | _ => none
      else if isLowSurrogate n then none
      else stringTail (Char.ofNat n :: acc) rest
  | '\\' :: c :: rest =>
    match plainEscape? c with
    | none => none
    | some c => stringTail (c :: acc) rest
  | c :: rest => if c.toNat < 0x20 then none else stringTail (c :: acc) rest

def digits : Reader (List Char) := fun cs =>
  match cs.takeWhile Char.isDigit with
  | [] => none
  | ds => some (ds, cs.dropWhile Char.isDigit)

def fraction : Reader (List Char)
  | '.' :: rest => digits rest
  | cs => some ([], cs)

def exponent : Reader (Option Int)
  | c :: rest =>
    if c = 'e' ∨ c = 'E' then
      match rest with
      | '-' :: rest => (digits rest).map fun (ds, r) => (some (-(Text.natOfDigits ds : Int)), r)
      | '+' :: rest => (digits rest).map fun (ds, r) => (some (Text.natOfDigits ds : Int), r)
      | rest => (digits rest).map fun (ds, r) => (some (Text.natOfDigits ds : Int), r)
    else some (none, c :: rest)
  | [] => some (none, [])

def longestNumber : Nat :=
  4300

def unsigned (negative : Bool) : Reader Json := fun cs => do
  let (whole, cs) ← digits cs
  if whole.length > 1 ∧ whole.head? = some '0' ∨ longestNumber < whole.length then none
  let hasFraction := cs.head? = some '.'
  let (frac, cs) ← fraction cs
  let (power, cs) ← exponent cs
  let magnitude := Text.natOfDigits (whole ++ frac)
  if !hasFraction && power.isNone then
    return (.integer (if negative then -magnitude else magnitude), cs)
  else
    return (.decimal (.ofDecimal negative magnitude (power.getD 0 - frac.length)), cs)

def word? (text : String) (cs : List Char) : Option (List Char) :=
  if text.toList.isPrefixOf cs then some (cs.drop text.length) else none

def number : Reader Json
  | '-' :: 'I' :: cs => (word? "nfinity" cs).map fun r => (.decimal (.infinite true), r)
  | 'I' :: cs => (word? "nfinity" cs).map fun r => (.decimal (.infinite false), r)
  | 'N' :: cs => (word? "aN" cs).map fun r => (.decimal .notANumber, r)
  | '-' :: cs => unsigned true cs
  | cs => unsigned false cs

mutual

/-- The first number counts steps, of which one for each character is enough; the second is the nesting that
is still allowed, in which what is empty does not count. -/
def value : (steps depth : Nat) → Reader Json
  | 0, _, _ => none
  | steps + 1, depth, cs =>
    match skipBlanks cs with
    | '[' :: rest =>
      match skipBlanks rest, depth with
      | ']' :: rest, _ => some (.array [], rest)
      | _, 0 => none
      | rest, depth + 1 => (items steps depth [] rest).map fun (xs, r) => (.array xs, r)
    | '{' :: rest =>
      match skipBlanks rest, depth with
      | '}' :: rest, _ => some (.object [], rest)
      | _, 0 => none
      | rest, depth + 1 => (fields steps depth [] rest).map fun (xs, r) => (.object xs, r)
    | '"' :: rest => (stringTail [] rest).map fun (s, r) => (.string s, r)
    | 't' :: rest => (word? "rue" rest).map fun r => (.bool true, r)
    | 'f' :: rest => (word? "alse" rest).map fun r => (.bool false, r)
    | 'n' :: rest => (word? "ull" rest).map fun r => (.null, r)
    | rest => number rest

def items : (steps depth : Nat) → (acc : List Json) → Reader (List Json)
  | 0, _, _, _ => none
  | steps + 1, depth, acc, cs =>
    match value steps depth cs with
    | none => none
    | some (x, cs) =>
      match skipBlanks cs with
      | ',' :: rest => items steps depth (x :: acc) rest
      | ']' :: rest => some ((x :: acc).reverse, rest)
      | _ => none

def fields : (steps depth : Nat) → (acc : List (String × Json)) → Reader (List (String × Json))
  | 0, _, _, _ => none
  | steps + 1, depth, acc, cs =>
    match skipBlanks cs with
    | '"' :: rest =>
      match stringTail [] rest with
      | none => none
      | some (name, cs) =>
        match skipBlanks cs with
        | ':' :: rest =>
          match value steps depth rest with
          | none => none
          | some (x, cs) =>
            match skipBlanks cs with
            | ',' :: rest => fields steps depth ((name, x) :: acc) rest
            | '}' :: rest => some (Assoc.ofPairs ((name, x) :: acc).reverse, rest)
            | _ => none
        | _ => none
    | _ => none

end

end Wiring.Json.Parser

namespace Wiring.Json

def parse? (depth : Nat) (text : String) : Option Json :=
  match Parser.value (text.length + 1) depth text.toList with
  | some (v, rest) => if (Parser.skipBlanks rest).isEmpty then some v else none
  | none => none

mutual

def fits : (depth : Nat) → Json → Bool
  | _, .array [] | _, .object [] => true
  | 0, .array (_ :: _) | 0, .object (_ :: _) => false
  | n + 1, .array items => allFit n items
  | n + 1, .object fields => fieldsFit n fields
  | _, .integer i => Text.decimalLength i.natAbs ≤ Parser.longestNumber
  | _, _ => true

def allFit (depth : Nat) : List Json → Bool
  | [] => true
  | j :: r => fits depth j && allFit depth r

def fieldsFit (depth : Nat) : List (String × Json) → Bool
  | [] => true
  | (_, j) :: r => fits depth j && fieldsFit depth r

end

end Wiring.Json
