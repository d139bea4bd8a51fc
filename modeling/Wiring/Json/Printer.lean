import Wiring.Double.Shortest
import Wiring.Json
import Wiring.Text.Digits

/-!
Writing a document as text: a comma and a blank between items, a colon and a blank after names, and every
character outside the printable ASCII range as an escape of its UTF-16 units.
-/

namespace Wiring.Json.Printer

def unitEscape (n : Nat) : List Char :=
  '\\' :: 'u' :: Text.hexDigits 4 n

def escaped (c : Char) : List Char :=
  match c with
  | '"' => ['\\', '"']
  | '\\' => ['\\', '\\']
  | '\n' => ['\\', 'n']
  | '\r' => ['\\', 'r']
  | '\t' => ['\\', 't']
  | '\x08' => ['\\', 'b']
  | '\x0c' => ['\\', 'f']
  | c =>
    let n := c.toNat
    if 0x20 ≤ n ∧ n < 0x7f then [c]
    else if n < 0x10000 then unitEscape n
    else unitEscape (0xD800 + (n - 0x10000) / 0x400) ++ unitEscape (0xDC00 + (n - 0x10000) % 0x400)

def quoted (s : String) : String :=
  String.ofList ('"' :: s.toList.flatMap escaped ++ ['"'])

end Printer

open Printer

def decimalText : Double → String
  | .infinite s => if s then "-Infinity" else "Infinity"
  | .notANumber => "NaN"
  | d => d.text

mutual

def text : Json → String
  | .null => "null"
  | .bool b => if b then "true" else "false"
  | .integer n => toString n
  | .decimal d => decimalText d
  | .string s => quoted s
  | .array items => "[" ++ ", ".intercalate (itemTexts items) ++ "]"
  | .object fields => "\x7b" ++ ", ".intercalate (fieldTexts fields) ++ "\x7d"

def itemTexts : List Json → List String
  | [] => []
  | x :: r => text x :: itemTexts r

def fieldTexts : List (String × Json) → List String
  | [] => []
  | (k, x) :: r => (quoted k ++ ": " ++ text x) :: fieldTexts r

end

end Wiring.Json
