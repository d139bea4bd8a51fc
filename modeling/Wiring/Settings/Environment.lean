/-!
What an environment can hold: a variable has a name without an equals sign, and neither name nor text has a null
character.
-/

namespace Wiring.Environment

inductive Fault where
  | nullCharacter
  | equalsSign
  | noName
  deriving DecidableEq

def Fault.message : Fault → String
  | .nullCharacter => "embedded null byte"
  | .equalsSign => "illegal environment variable name"
  | .noName => "[Errno 22] Invalid argument"

def fault? (v : String × String) : Option Fault :=
  if '\x00' ∈ v.1.toList ∨ '\x00' ∈ v.2.toList then some .nullCharacter
  else if '=' ∈ v.1.toList then some .equalsSign
  else if v.1 = "" then some .noName
  else none

def ofVariables (entries : List (String × String)) : Except Fault (List (String × String)) :=
  match entries.findSome? fault? with
  | some fault => .error fault
  | none => .ok entries

end Wiring.Environment
