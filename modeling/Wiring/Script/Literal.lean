import Wiring.Json.Parser
import Wiring.Text.Split

/-!
Numbers and texts as they stand in scripts. A backslash in a text begins an escape; one that begins none stands for
itself.
-/

namespace Wiring.Script

def groups? (isDigit : Char → Bool) (cs : List Char) : Option (List Char) :=
  let parts := Text.pieces '_' cs
  if parts.all fun p => p ≠ [] && p.all isDigit then some parts.flatten else none

def inBase (base : Nat) (ds : List Char) : Nat :=
  ds.foldl (fun n c => base * n + (Json.Parser.hexDigit? c).getD 0) 0

def based? (letter : Char) (cs : List Char) : Option Nat :=
  let base := match letter.toLower with
    | 'x' => 16
    | 'o' => 8
    | _ => 2
  let body := if cs.head? = some '_' then cs.tail else cs
  (groups? (fun c => (Json.Parser.hexDigit? c).any (· < base)) body).map (inBase base)

inductive Number where
  | whole (n : Nat)
  | decimal (d : Double)
  | imaginary (d : Double)

def decimal? (whole : List Char) (fraction power : Option (List Char)) (isImaginary : Bool) : Option Number := do
  let ds ← if whole = [] then pure [] else groups? Char.isDigit whole
  let fs ← match fraction with
    | none | some [] => pure []
    | some fs => groups? Char.isDigit fs
  let p ← match power with
    | none => pure 0
    | some ('-' :: ps) => (groups? Char.isDigit ps).map fun ps => -(Text.natOfDigits ps : Int)
    | some ('+' :: ps) | some ps => (groups? Char.isDigit ps).map fun ps => (Text.natOfDigits ps : Int)
  let d : Double := .ofDecimal false (Text.natOfDigits (ds ++ fs)) (p - fs.length)
  if isImaginary then return .imaginary d
  else if fraction.isSome ∨ power.isSome then return .decimal d
  else if ds.head? = some '0' ∧ ds.any (· ≠ '0') ∨ Json.Parser.longestNumber < ds.length then none
  else return .whole (Text.natOfDigits ds)

def escapes : List (Char × Char) :=
  [('\\', '\\'), ('\'', '\''), ('"', '"'), ('a', '\x07'), ('b', '\x08'), ('f', '\x0c'), ('n', '\n'), ('r', '\r'),
    ('t', '\t'), ('v', '\x0b')]

def escapeLength? : Char → Option Nat
  | 'x' => some 2
  | 'u' => some 4
  | 'U' => some 8
  | _ => none

def isOctal (c : Char) : Bool :=
  '0' ≤ c && c ≤ '7'

def escape? (isBytes : Bool) : List Char → Option (List Char × List Char)
  -- Fails on escapes by number that are not complete; characters by name are not read.
  | [] => none
  | '\n' :: r => some ([], r)
  | c :: r =>
    match Assoc.find? c escapes, escapeLength? c with
    | some d, _ => some ([d], r)
    | none, some n =>
      if isBytes ∧ c ≠ 'x' then some (['\\', c], r)
      else
        let ds := r.take n
        if ds.length = n ∧ ds.all (fun d => (Json.Parser.hexDigit? d).isSome) ∧ inBase 16 ds < 0x110000 then
          some ([Char.ofNat (inBase 16 ds)], r.drop n)
        else none
    | none, none =>
      if isOctal c then
        let ds := (c :: r).take 3 |>.takeWhile isOctal
        some ([Char.ofNat (inBase 8 ds)], (c :: r).drop ds.length)
      else if c = 'N' ∧ !isBytes then none
      else some (['\\', c], r)

def unescaped? (isBytes : Bool) : (steps : Nat) → List Char → Option (List Char)
  | _, [] => some []
  | 0, _ => none
  | steps + 1, '\\' :: r => do
    let (shown, rest) ← escape? isBytes r
    return shown ++ (← unescaped? isBytes steps rest)
  | steps + 1, c :: r => (unescaped? isBytes steps r).map (c :: ·)

end Wiring.Script
