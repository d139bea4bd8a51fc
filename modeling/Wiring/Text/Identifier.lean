import Wiring.Text.Letter

/-!
Names in generated units: a letter or an underscore comes first, digits and marks may follow.
-/

namespace Wiring.Text

def startsName (c : Char) : Bool :=
  c = '_' || isLetter c

def isIdentifier (cs : List Char) : Bool :=
  match cs with
  | [] => false
  | c :: r => startsName c && r.all fun c => startsName c || isContinuation c

def isLineBlank (c : Char) : Bool :=
  c = ' ' || c = '\t' || c.toNat = 0x0c

end Wiring.Text
