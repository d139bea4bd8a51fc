import Wiring.Text.Template.Kind
import Wiring.Text.Template.Number

/-!
What a template can be filled with, and the parts of it that a field can name: members by name, items by number or,
of dictionaries, by key.
-/

namespace Wiring.Text.Template

/-- A record shows a text of its own. Its `views` can be named like its fields, but are no part of it, and its
`methods` go with their full names. A `sort` is a kind as a value, with what it shares with the
records of it. A `thing` only shows, in one way as a text and in one as a literal, and has members. -/
inductive Value where
  | nothing
  | text (value : List Char)
  | whole (value : Int)
  | truth (value : Bool)
  | tuple (items : List Value)
  | dictionary (entries : List (String × Value))
  | set (items : List Value)
  | record (kind : Kind) (shown : String) (fields views : List (String × Value)) (methods : List (String × String))
  | sort (kind : Kind) (members : List (String × Value))
  | thing (kind : Kind) (shown literal : String) (members : List (String × Value))
  deriving Inhabited

inductive Conversion where
  | shown
  | literal
  | ascii
  deriving DecidableEq

def Conversion.ofChar? : Char → Option Conversion
  | 's' => some .shown
  | 'r' => some .literal
  | 'a' => some .ascii
  | _ => none

namespace Value

def ofString (s : String) : Value :=
  .text s.toList

def kindOf : Value → Kind
  | .nothing => .common "NoneType"
  | .text _ => .common "str"
  | .whole _ => .common "int"
  | .truth _ => .ofTruth
  | .tuple _ => .common "tuple"
  | .dictionary _ => .common "dict"
  | .set _ => .common "set"
  | .record kind _ _ _ _ | .thing kind _ _ _ => kind
  | .sort kind _ => kind.sort

def tupleLiteral : List String → String
  | [item] => "(" ++ item ++ ",)"
  | items => "(" ++ ", ".intercalate items ++ ")"

mutual

def literal : Value → String
  | .nothing => "None"
  | .text cs => quoted (String.ofList cs)
  | .whole n => toString n
  | .truth b => if b then "True" else "False"
  | .tuple items => tupleLiteral (literals items)
  | .dictionary entries => "\x7b" ++ ", ".intercalate (entryLiterals entries) ++ "\x7d"
  | .set [] => "set()"
  | .set (v :: r) => "\x7b" ++ ", ".intercalate (literal v :: literals r) ++ "\x7d"
  | .record kind _ fields _ _ => kind.name ++ "(" ++ ", ".intercalate (fieldLiterals fields) ++ ")"
  | .sort kind _ => kind.literal
  | .thing _ _ literal _ => literal

def literals : List Value → List String
  | [] => []
  | v :: r => literal v :: literals r

def entryLiterals : List (String × Value) → List String
  | [] => []
  | (key, v) :: r => (quoted key ++ ": " ++ literal v) :: entryLiterals r

def fieldLiterals : List (String × Value) → List String
  | [] => []
  | (name, v) :: r => (name ++ "=" ++ literal v) :: fieldLiterals r

end

def shown : Value → String
  | .text cs => String.ofList cs
  | .record _ shown _ _ _ | .thing _ shown _ _ => shown
  | v => v.literal

def convert (v : Value) : Conversion → Value
  | .shown => ofString v.shown
  | .literal => ofString v.literal
  | .ascii => .text (v.literal.toList.flatMap fun c => if c.toNat < 128 then [c] else numericEscape c)

def numberMember? (n : Int) : String → Option Int
  | "real" | "numerator" => some n
  | "imag" => some 0
  | "denominator" => some 1
  | _ => none

def ofLiteral (kind : Kind) (literal : String) (members : List (String × Value)) : Value :=
  .thing kind literal literal members

def ofKind (k : Kind) : Value :=
  .sort k []

def methodMembers (name fullName : String) : List (String × Value) :=
  [("__name__", ofString name), ("__qualname__", ofString fullName)]

def method (name fullName : String) (subject : Value) : Value :=
  ofLiteral (.common "method") ("<bound method " ++ fullName ++ " of " ++ subject.literal ++ ">")
    (methodMembers name fullName ++ [("__doc__", .nothing), ("__self__", subject)])

def common? (v : Value) (name : String) : Option Value := do
  let (origin, memberKind) ← v.kindOf.memberKind? name
  let members (owner : Kind) := methodMembers name (owner.name ++ "." ++ name) ++ [("__self__", v)]
  let ofObject := name ++ "' of " ++ v.kindOf.name ++ " object>"
  match memberKind with
  | .method =>
    some (ofLiteral (.common "builtin_function_or_method") ("<built-in method '" ++ ofObject)
      (("__module__", .nothing) :: members v.kindOf))
  | .wrapper =>
    some (ofLiteral (.common "method-wrapper") ("<method-wrapper '" ++ ofObject)
      (("__objclass__", ofKind origin) :: members origin))
  | .property | .slot => none

def ofMember (origin : Kind) (memberKind : MemberKind) (name : String) : Value :=
  let kind := match memberKind with
    | .method => "method_descriptor"
    | .wrapper => "wrapper_descriptor"
    | .property => "getset_descriptor"
    | .slot => "member_descriptor"
  ofLiteral (.common kind) ("<" ++ memberKind.text ++ " '" ++ name ++ "' of '" ++ origin.name ++ "' objects>")
    (methodMembers name (origin.name ++ "." ++ name) ++ [("__objclass__", ofKind origin)])

def kindMember? (k : Kind) (members : List (String × Value)) (name : String) : Option Value :=
  match name with
  | "__name__" | "__qualname__" => some (ofString k.name)
  | "__module__" => some (ofString (if k.module = "" then "builtins" else k.module))
  | "__mro__" => some (.tuple (.sort k members :: k.lineage.tail.map ofKind))
  | "__base__" => some ((k.base?.map ofKind).getD .nothing)
  | "__bases__" => some (.tuple (k.base?.toList.map ofKind))
  | "__class__" => some (ofKind k.sort)
  | _ =>
    match Assoc.find? name members, k.measure? name with
    | some v, _ => some v
    | none, some n => some (.whole n)
    | none, none =>
      if name = "__doc__" then some ((k.description?.map ofString).getD .nothing)
      else (k.memberKind? name).map fun (origin, memberKind) => ofMember origin memberKind name

def member (v : Value) (name : String) : Except Fault Value :=
  let own := match v with
    | .whole n => (numberMember? n name).map .whole
    | .truth b => (numberMember? b.toInt name).map .whole
    | .dictionary _ | .set _ => if name = "__hash__" then some .nothing else none
    | .record _ _ fields views methods =>
      match Assoc.find? name (fields ++ views) with
      | some w => some w
      | none => (Assoc.find? name methods).map (method name · v)
    | .sort k members => kindMember? k members name
    | .thing _ _ _ members => Assoc.find? name members
    | _ => none
  let kind := v.kindOf
  match own, common? v name with
  | some w, _ | none, some w => .ok w
  | none, none =>
    match name with
    | "__class__" => .ok (ofKind kind)
    | "__doc__" => .ok ((kind.description?.map ofString).getD .nothing)
    | _ => .error .noMember

def itemAt (kind : String) (items : List Value) (index : Nat) : Except Fault Value :=
  match items[index]? with
  | some v => .ok v
  | none => .error (.itemOutOfRange kind)

def item (index : Nat) : Value → Except Fault Value
  | .text cs => itemAt "string" (cs.map fun c => .text [c]) index
  | .tuple items => itemAt "tuple" items index
  | .dictionary _ => .error (.unknownNumber index)
  | .sort kind _ => ofArgument kind (toString index)
  | _ => .error .misused
where
  ofArgument (kind : Kind) (argument : String) : Except Fault Value :=
    if kind.takesArguments then
      .ok (ofLiteral (.derived "types" "GenericAlias" .object) (kind.name ++ "[" ++ argument ++ "]")
        [("__origin__", ofKind kind)])
    else .error .misused

def itemNamed (name : String) : Value → Except Fault Value
  | .dictionary entries =>
    match Assoc.find? name entries with
    | some v => .ok v
    | none => .error (.unknownName name)
  | .sort kind _ => item.ofArgument kind (quoted name)
  | _ => .error .misused

def layOut (v : Value) (spec : List Char) : Except Fault (List Char) := do
  if spec = [] then return v.shown.toList
  match v with
  | .text cs =>
    let l ← Layout.read "str" 's' .left spec
    if Layout.noRoom ≤ l.width then throw .tooWide
    l.text cs
  | .whole n => number "int" n
  | .truth b => number "bool" b.toInt
  | _ => throw .misused
where
  number (kind : String) (n : Int) : Except Fault (List Char) := do
    let l ← Layout.read kind 'd' .right spec
    if Layout.noRoom ≤ l.width then throw .tooWide
    l.whole kind n

end Value

end Wiring.Text.Template
