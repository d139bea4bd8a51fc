import Wiring.Text.Encoding.Domain
import Wiring.Text.Encoding.MultiByte
import Wiring.Text.Encoding.Name
import Wiring.Text.Encoding.Punycode
import Wiring.Text.Encoding.Sextets
import Wiring.Text.Encoding.SingleByte.Table
import Wiring.Text.Quoted

/-!
Encodings of texts. An encoding either writes every character or names the first run of characters that it lacks.
-/

namespace Wiring

inductive Encoding where
  | utf8
  | utf8Marked
  | utf16
  | utf16Little
  | utf16Big
  | utf32
  | utf32Little
  | utf32Big
  | utf7
  | latin1
  | ascii
  | escaped
  | rawEscaped
  | punycode
  | domainName
  | undefined
  | singleByte (letters : Encoding.SingleByte)
  | multiByte (letters : Encoding.MultiByte)
  deriving DecidableEq

structure Unencodable where
  encoding : Encoding
  first : Char
  start : Nat
  stop : Nat
  deriving DecidableEq

namespace Encoding

def range : Encoding → Nat
  | .latin1 => 256
  | .ascii => 128
  | _ => 0x110000

def name : Encoding → String
  | .utf8 => "utf-8"
  | .utf8Marked => "utf-8-sig"
  | .utf16 => "utf-16"
  | .utf16Little => "utf-16-le"
  | .utf16Big => "utf-16-be"
  | .utf32 => "utf-32"
  | .utf32Little => "utf-32-le"
  | .utf32Big => "utf-32-be"
  | .utf7 => "utf-7"
  | .latin1 => "latin-1"
  | .ascii => "ascii"
  | .escaped => "unicode-escape"
  | .rawEscaped => "raw-unicode-escape"
  | .punycode => "punycode"
  | .domainName => "idna"
  | .undefined => "undefined"
  | .singleByte _ => "charmap"
  | .multiByte e => e.name

def common : List (String × Encoding) :=
  [("utf_8", .utf8), ("utf_8_sig", .utf8Marked), ("utf_16", .utf16), ("utf_16_le", .utf16Little),
    ("utf_16_be", .utf16Big), ("utf_32", .utf32), ("utf_32_le", .utf32Little), ("utf_32_be", .utf32Big),
    ("utf_7", .utf7), ("latin_1", .latin1), ("charmap", .latin1), ("ascii", .ascii), ("unicode_escape", .escaped),
    ("raw_unicode_escape", .rawEscaped), ("punycode", .punycode), ("idna", .domainName),
    ("undefined", .undefined)]

def ofFirstName? (name : String) : Option Encoding :=
  Assoc.find? name common <|> (Assoc.find? name SingleByte.pages).map .singleByte <|>
    (Assoc.find? name MultiByte.names).map .multiByte

def ofName? (s : String) : Option Encoding :=
  if s = "locale" then some .utf8 else (candidates s).findSome? ofFirstName?

def bigEndian (width n : Nat) : List UInt8 :=
  match width with
  | 0 => []
  | w + 1 => UInt8.ofNat (n >>> (8 * w)) :: bigEndian w n

def littleEndian (width n : Nat) : List UInt8 :=
  (bigEndian width n).reverse

def ofChars (cs : List Char) : List UInt8 :=
  cs.map MultiByte.charByte

def escapedChar (c : Char) : List Char :=
  if c = '\\' then ['\\', '\\']
  else if c = '\t' then ['\\', 't']
  else if c = '\n' then ['\\', 'n']
  else if c = '\r' then ['\\', 'r']
  else if 32 ≤ c.toNat ∧ c.toNat < 127 then [c]
  else Text.numericEscape c

def encodeChar? (e : Encoding) (c : Char) : Option (List UInt8) :=
  match e with
  | .utf8 | .utf8Marked => some (String.utf8EncodeChar c)
  | .utf16 | .utf16Little => some ((Sextets.units16 c).flatMap (littleEndian 2))
  | .utf16Big => some ((Sextets.units16 c).flatMap (bigEndian 2))
  | .utf32 | .utf32Little => some (littleEndian 4 c.toNat)
  | .utf32Big => some (bigEndian 4 c.toNat)
  | .latin1 | .ascii => if c.toNat < e.range then some [UInt8.ofNat c.toNat] else none
  | .escaped => some (ofChars (escapedChar c))
  | .rawEscaped => some (if c.toNat < 256 then [UInt8.ofNat c.toNat] else ofChars (Text.numericEscape c))
  | .singleByte letters => (letters.byteOf? c).map fun b => [b]
  | .utf7 | .punycode | .domainName | .undefined | .multiByte _ => none

def mark : Encoding → List UInt8
  | .utf8Marked => [0xef, 0xbb, 0xbf]
  | .utf16 => [0xff, 0xfe]
  | .utf32 => [0xff, 0xfe, 0, 0]
  | _ => []

def unencodable? (e : Encoding) (cs : List Char) : Option Unencodable :=
  let has (c : Char) : Bool := (e.encodeChar? c).isSome
  let start := (cs.takeWhile has).length
  match cs.dropWhile has with
  | [] => none
  | c :: r => some {
      encoding := e
      first := c
      start
      stop := start + ((c :: r).takeWhile fun c => !has c).length }

def encodeEach (e : Encoding) (cs : List Char) : Except Unencodable (List UInt8) :=
  match e.unencodable? cs with
  | some u => .error u
  | none => .ok (e.mark ++ cs.flatMap fun c => (e.encodeChar? c).getD [])

inductive Fault where
  | unencodable (u : Unencodable)
  | domain (fault : Domain.Fault)
  | undefined
  deriving DecidableEq

def encode (e : Encoding) (s : String) : Except Fault ByteArray :=
  List.toByteArray <$> match e with
    | .utf7 => .ok (ofChars (Sextets.encode s.toList))
    | .punycode => .ok (ofChars (Punycode.encode s.toList))
    | .domainName => (ofChars <$> Domain.encode s.toList).mapError .domain
    | .undefined => .error .undefined
    | .multiByte letters =>
      (letters.encodeFrom {} 0 s.toList).mapError fun (start, first) =>
        .unencodable { encoding := e, first, start, stop := start + 1 }
    | e => (e.encodeEach s.toList).mapError .unencodable

end Encoding

namespace Unencodable

def reason (e : Encoding) : String :=
  match e with
  | .singleByte _ => "character maps to <undefined>"
  | .multiByte _ => "illegal multibyte sequence"
  | e => "ordinal not in range(" ++ toString e.range ++ ")"

def message (u : Unencodable) : String :=
  "'" ++ u.encoding.name ++ "' codec can't encode " ++
    (if u.stop = u.start + 1 then
      "character '" ++ String.ofList (Text.numericEscape u.first) ++ "' in position " ++ toString u.start
    else "characters in position " ++ toString u.start ++ "-" ++ toString (u.stop - 1)) ++
    ": " ++ reason u.encoding

end Unencodable

def Encoding.Fault.message : Encoding.Fault → String
  | .unencodable u => u.message
  | .domain fault => fault.message
  | .undefined => "undefined encoding"

end Wiring
