import Wiring.Script.Expression

/-!
Reading trees from tokens, with no way back: the next token says what there is to read.
-/

namespace Wiring.Script

abbrev Reading := StateT (List Token) (Except Fault)

namespace Reading

variable {α : Type}

def faultAt : Option Token → Fault
  | some .indent | some .dedent => .misindented
  | some (.broken f) => f
  | _ => .malformed

def refuse : Reading α := do
  throw (faultAt (← get).head?)

def next? : Reading (Option Token) :=
  return (← get).head?

def advance : Reading Unit :=
  modify List.tail

def isMark (m : String) : Token → Bool
  | .mark s => s = m
  | _ => false

def isWord (w : String) : Token → Bool
  | .keyword s => s = w
  | _ => false

def isNext (p : Token → Bool) : Reading Bool :=
  return (← next?).any p

def takes (p : Token → Bool) : Reading Bool := do
  if ← isNext p then
    advance
    return true
  else return false

def takesMark (m : String) : Reading Bool :=
  takes (isMark m)

def takesWord (w : String) : Reading Bool :=
  takes (isWord w)

def nextIsMark (m : String) : Reading Bool :=
  isNext (isMark m)

def nextIsWord (w : String) : Reading Bool :=
  isNext (isWord w)

def expect (p : Token → Bool) : Reading Unit := do
  if !(← takes p) then refuse

def expectMark (m : String) : Reading Unit :=
  expect (isMark m)

def expectWord (w : String) : Reading Unit :=
  expect (isWord w)

def takesOneOf (ms : List String) : Reading (Option String) := do
  match ← next? with
  | some (.mark m) =>
    if m ∈ ms then
      advance
      return some m
    else return none
  | _ => return none

def takesName : Reading String := do
  match ← next? with
  | some (.name s) =>
    advance
    return s
  | _ => refuse

end Reading

end Wiring.Script
