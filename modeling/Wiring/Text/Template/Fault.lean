import Wiring.Text.Quoted

/-!
What is wrong with a template, or with a template for the arguments that it gets.
-/

namespace Wiring.Text.Template

inductive Fault where
  | loneClosingBrace
  | loneOpeningBrace
  | unclosedField
  | unclosedLayout
  | unclosedItem
  | braceInField
  | conversionCut
  | conversionTooLong
  | unknownConversion (c : Char)
  | emptyPart
  | strayAfterItem
  | tooManyDigits
  | tooDeep
  | orderThenNumber
  | numberThenOrder
  | outOfRange (index : Nat)
  | itemOutOfRange (kind : String)
  | unknownName (name : String)
  | unknownNumber (n : Nat)
  | noMember
  | misused
  | tooLarge
  | tooWide
  | unreadableLayout (layout kind : String)
  | unknownForm (form : Char) (kind : String)
  | marksRefused (mark form : Char)
  | marksMixed
  | missingPrecision
  | refused (what : String)
  deriving DecidableEq

namespace Fault

def shown (c : Char) (limit : Nat) : String :=
  if 32 < c.toNat ∧ c.toNat < limit then c.toString else "\\x" ++ String.ofList (hexDigits 0 c.toNat)

def message : Fault → String
  | loneClosingBrace => "Single '\x7d' encountered in format string"
  | loneOpeningBrace => "Single '\x7b' encountered in format string"
  | unclosedField => "expected '\x7d' before end of string"
  | unclosedLayout => "unmatched '\x7b' in format spec"
  | unclosedItem => "Missing ']' in format string"
  | braceInField => "unexpected '\x7b' in field name"
  | conversionCut => "end of string while looking for conversion specifier"
  | conversionTooLong => "expected ':' after conversion specifier"
  | unknownConversion c => "Unknown conversion specifier " ++ shown c 127
  | emptyPart => "Empty attribute in format string"
  | strayAfterItem => "Only '.' or '[' may follow ']' in format field specifier"
  | tooManyDigits => "Too many decimal digits in format string"
  | tooDeep => "Max string recursion exceeded"
  | orderThenNumber => "cannot switch from automatic field numbering to manual field specification"
  | numberThenOrder => "cannot switch from manual field specification to automatic field numbering"
  | outOfRange index => "Replacement index " ++ toString index ++ " out of range for positional args tuple"
  | itemOutOfRange kind => kind ++ " index out of range"
  | unknownName name => quoted name
  | unknownNumber n => toString n
  | unreadableLayout layout kind => "Invalid format specifier '" ++ layout ++ "' for object of type '" ++ kind ++ "'"
  | unknownForm form kind =>
    "Unknown format code '" ++ shown form 128 ++ "' for object of type '" ++ kind ++ "'"
  | marksRefused mark form => "Cannot specify '" ++ mark.toString ++ "' with '" ++ shown form 128 ++ "'."
  | marksMixed => "Cannot specify both ',' and '_'."
  | missingPrecision => "Format specifier missing precision"
  | refused what => what
  | noMember | misused | tooLarge | tooWide => ""

end Fault

end Wiring.Text.Template
