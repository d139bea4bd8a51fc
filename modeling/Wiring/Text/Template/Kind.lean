import Wiring.Assoc
import Wiring.Text.Template.Members

/-!
The kinds that values are of. A kind is derived from another one, so that all of them come from that of all objects,
and is itself a value of a kind.
-/

namespace Wiring.Text.Template

inductive Kind where
  -- A kind of the second sort is itself of a kind of its own, `sort`; all others are of the kind `type`.
  | object
  | derived (module name : String) (base : Kind)
  | sorted (module name : String) (base sort : Kind)
  deriving DecidableEq

namespace Kind

def common (name : String) : Kind :=
  .derived "" name .object

def ofTruth : Kind :=
  .derived "" "bool" (common "int")

def module : Kind → String
  | .object => ""
  | .derived module _ _ | .sorted module _ _ _ => module

def name : Kind → String
  | .object => "object"
  | .derived _ name _ | .sorted _ name _ _ => name

def base? : Kind → Option Kind
  | .object => none
  | .derived _ _ base | .sorted _ _ base _ => some base

def lineage : Kind → List Kind
  | .object => [.object]
  | .derived module name base => .derived module name base :: base.lineage
  | .sorted module name base sort => .sorted module name base sort :: base.lineage

def sort : Kind → Kind
  | .sorted _ _ _ sort => sort
  | _ => common "type"

def literal (k : Kind) : String :=
  "<class '" ++ (if k.module = "" then k.name else k.module ++ "." ++ k.name) ++ "'>"

def memberKind? (k : Kind) (member : String) : Option (Kind × MemberKind) :=
  k.lineage.findSome? fun origin =>
    if origin.module = "" then (Template.memberKind? origin.name member).map (origin, ·) else none

def description? (k : Kind) : Option String :=
  if k.module = "" then Assoc.find? k.name descriptions else none

def measure? (k : Kind) (name : String) : Option Nat :=
  if k.module = "" then Template.measure? k.name name else none

def takesArguments (k : Kind) : Bool :=
  k.module = "" && k.name ∈ ["dict", "set", "tuple", "type"]

end Kind

end Wiring.Text.Template
