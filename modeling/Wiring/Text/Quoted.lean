import Wiring.Json.Printer
import Wiring.Text.Printable

/-!
The literal notation of texts and values, as messages and log lines show them. A text stands in single quotes
unless it holds a single quote and no double one; the backslash, the chosen quote and what does not show are
escaped.
-/

namespace Wiring.Text

def numericEscape (c : Char) : List Char :=
  let n := c.toNat
  if n < 0x100 then '\\' :: 'x' :: hexDigits 2 n
  else if n < 0x10000 then '\\' :: 'u' :: hexDigits 4 n
  else '\\' :: 'U' :: hexDigits 8 n

def escapedIn (quote c : Char) : List Char :=
  if c = quote ∨ c = '\\' then ['\\', c]
  else if c = '\n' then ['\\', 'n']
  else if c = '\r' then ['\\', 'r']
  else if c = '\t' then ['\\', 't']
  else if isPrintable c then [c]
  else numericEscape c

def quoteFor (cs : List Char) : Char :=
  if '\'' ∈ cs ∧ '"' ∉ cs then '"' else '\''

def quoted (s : String) : String :=
  let q := quoteFor s.toList
  String.ofList (q :: s.toList.flatMap (escapedIn q) ++ [q])

end Wiring.Text

namespace Wiring.Json

mutual

def literal : Json → String
  | .null => "None"
  | .bool b => if b then "True" else "False"
  | .integer n => toString n
  | .decimal d => d.text
  | .string s => Text.quoted s
  | .array items => "[" ++ ", ".intercalate (itemLiterals items) ++ "]"
  | .object fields => "\x7b" ++ ", ".intercalate (fieldLiterals fields) ++ "\x7d"

def itemLiterals : List Json → List String
  | [] => []
  | x :: r => literal x :: itemLiterals r

def fieldLiterals : List (String × Json) → List String
  | [] => []
  | (k, x) :: r => (Text.quoted k ++ ": " ++ literal x) :: fieldLiterals r

end

end Wiring.Json
