import Wiring.Container.Class
import Wiring.Container.Formation
import Wiring.Container.Library
import Wiring.Text.Template.Value

/-!
What operators and attributes make of values. Types are all there is to compute with, besides plain numbers and
texts.
-/

namespace Wiring.Container.Operation

open Indexing (index?)
open Items (areEqual)

def text? : Meaning → Option String
  | .type (.key (.string s)) => some s
  | _ => none

def asciiText (m : Meaning) : String :=
  String.ofList (m.text.toList.flatMap fun c => if c.toNat < 128 then [c] else Text.numericEscape c)

def ofInt (n : Int) : Meaning :=
  .type (.key (.integer n))

def unsupported (operator : String) (a b : Meaning) : Raised :=
  let operator := if operator = "**" then "** or pow()" else operator
  .type ("unsupported operand type(s) for " ++ operator ++ ": '" ++ a.sort ++ "' and '" ++ b.sort ++ "'")

def byZero (message : String) : Raised where
  kind := "ZeroDivisionError"
  message := message

def compute? (operator : String) (m n : Int) : Option (Except Raised Int) :=
  let shifted (amount : Int) (r : Int) : Except Raised Int :=
    if amount < 0 then .error { kind := "ValueError", message := "negative shift count" } else .ok r
  match operator with
  | "+" => some (.ok (m + n))
  | "-" => some (.ok (m - n))
  | "*" => some (.ok (m * n))
  | "//" => some (if n = 0 then .error (byZero "integer division or modulo by zero") else .ok (m.fdiv n))
  | "%" => some (if n = 0 then .error (byZero "integer modulo by zero") else .ok (m.fmod n))
  | "**" => if 0 ≤ n ∧ n < 4096 then some (.ok (m.pow n.toNat)) else none
  | "<<" => some (shifted n (m * ((1 <<< (n.toNat % 4096) : Nat) : Int)))
  | ">>" => some (shifted n (m.fdiv ((1 <<< (n.toNat % 4096) : Nat) : Int)))
  | "&" => some (.ok (common m n))
  | "|" => some (.ok (joint m n))
  | "^" => some (.ok (joint m n - common m n))
  | _ => none
where
  common (m n : Int) : Int :=
    match m, n with
    | .ofNat a, .ofNat b => ((a &&& b : Nat) : Int)
    | .ofNat a, .negSucc b => ((a - (a &&& b) : Nat) : Int)
    | .negSucc a, .ofNat b => ((b - (b &&& a) : Nat) : Int)
    | .negSucc a, .negSucc b => .negSucc (a ||| b)
  joint (m n : Int) : Int :=
    -common (-m - 1) (-n - 1) - 1

def scaled? : Meaning → Option (Int × Int)
  | .type (.key (.decimal (.finite negative m e))) => some (if negative then -(m : Int) else m, e)
  | m => (index? m).map (·, 0)

def onOneScale (a b : Int × Int) : Int × Int :=
  let least := min a.2 b.2
  let raise (x : Int × Int) : Int := x.1 * ((1 <<< (x.2 - least).toNat : Nat) : Int)
  (raise a, raise b)

def nearest (n : Int) (exponent : Int) (d : Int) : Meaning :=
  let up := n.natAbs <<< exponent.toNat
  let down := d.natAbs <<< (-exponent).toNat
  .type (.key (.decimal (
    if n = 0 then .finite (d < 0) 0 0 else .ofQuotient (decide (n < 0) != decide (d < 0)) up down)))

def computeNearest? (operator : String) (a b : Int × Int) : Option (Except Raised Meaning) :=
  let least := min a.2 b.2
  let (m, n) := onOneScale a b
  match operator with
  | "+" => some (.ok (nearest (m + n) least 1))
  | "-" => some (.ok (nearest (m - n) least 1))
  | "*" => some (.ok (nearest (a.1 * b.1) (a.2 + b.2) 1))
  | "/" =>
    let message := if a.2 = 0 ∧ b.2 = 0 then "division by zero" else "float division by zero"
    some (if n = 0 then .error (byZero message) else .ok (nearest m 0 n))
  | "//" => some (if n = 0 then .error (byZero "float floor division by zero") else .ok (nearest (m.fdiv n) 0 1))
  | "%" => some (if n = 0 then .error (byZero "float modulo") else .ok (nearest (m.fmod n) least 1))
  | _ => none

inductive Sequence where
  | text (s : String)
  | bytes (s : String)
  | items (kind : Script.CollectionKind) (items : List Meaning)

def sequence? : Meaning → Option Sequence
  | .type (.key (.string s)) => some (.text s)
  | .bytes s => some (.bytes s)
  | .items .set _ => none
  | .items kind ms => some (.items kind ms)
  | _ => none

def Sequence.repeated (count : Int) : Sequence → Meaning
  | .text s => .ofText (String.join (List.replicate count.toNat s))
  | .bytes s => .bytes (String.join (List.replicate count.toNat s))
  | .items kind ms => .items kind (List.replicate count.toNat ms).flatten

def multiply (s : Sequence) (count : Meaning) : Except Raised Meaning :=
  match index? count with
  | some n => .ok (s.repeated n)
  | none => .error (.type ("can't multiply sequence by non-int of type '" ++ count.sort ++ "'"))

def append (a : Meaning) (s : Sequence) (b : Meaning) : Except Raised Meaning :=
  match s, sequence? b with
  | .text x, some (.text y) => .ok (.ofText (x ++ y))
  | .bytes x, some (.bytes y) => .ok (.bytes (x ++ y))
  | .bytes _, _ => .error (.type ("can't concat " ++ b.sort ++ " to bytes"))
  | .items k ms, some (.items l ns) =>
    if k = l then .ok (.items k (ms ++ ns)) else .error (notAppended a b)
  | _, _ => .error (notAppended a b)
where
  notAppended (a b : Meaning) : Raised :=
    .type ("can only concatenate " ++ a.sort ++ " (not \"" ++ b.sort ++ "\") to " ++ a.sort)

def takesNothing : Meaning → Bool
  | .items .tuple ms => ms.isEmpty
  | .items .list _ => true
  | m => m.sort = "dict"

def marked (mark : Char) (m : Meaning) : Except Raised String :=
  match mark, index? m with
  | 's', _ => .ok m.shown
  | 'r', _ => .ok m.text
  | 'a', _ => .ok (asciiText m)
  | 'd', some n | 'i', some n | 'u', some n => .ok (toString n)
  | 'x', some n => .ok ((if n < 0 then "-" else "") ++ String.ofList (Nat.toDigits 16 n.natAbs))
  | 'x', none => .error (.type ("%x format: an integer is required, not " ++ m.sort))
  | _, _ => .error (.type ("%" ++ mark.toString ++ " format: a real number is required, not " ++ m.sort))

def fillMarks (passes : Bool) : List Char → List Meaning → Except Raised String
  | [], ms =>
    if ms.isEmpty || passes then .ok ""
    else .error (.type "not all arguments converted during string formatting")
  | ['%'], _ => .error { kind := "ValueError", message := "incomplete format" }
  | '%' :: '%' :: r, ms => ("%" ++ ·) <$> fillMarks passes r ms
  | '%' :: mark :: r, ms =>
    match ms with
    | [] => .error (.type "not enough arguments for format string")
    | m :: ms => do return (← marked mark m) ++ (← fillMarks passes r ms)
  | c :: r, ms => (c.toString ++ ·) <$> fillMarks passes r ms

def joinSequences (operator : String) (a b : Meaning) : Except Raised Meaning :=
  match operator, sequence? a, sequence? b with
  | "*", some s, _ => multiply s b
  | "*", none, some s => multiply s a
  | "+", some s, _ => append a s b
  | "%", some (.text s), _ =>
    match b with
    | .items .tuple ms => .ofText <$> fillMarks false s.toList ms
    | b => .ofText <$> fillMarks (takesNothing b) s.toList [b]
  | "%", some (.bytes s), _ =>
    if takesNothing b then .ok (.bytes s)
    else .error (.type "not all arguments converted during bytes formatting")
  | _, _, _ =>
    match a, b with
    | .items .set ms, .items .set ns => ((Items.combine? operator ms ns).map Items.asSet).getD refused
    | .dictionary ks vs, .dictionary ls ws =>
      if operator = "|" then Items.dictionary (ks.zip vs ++ ls.zip ws) else refused
    | _, _ => refused
where
  refused : Except Raised Meaning :=
    .error (unsupported operator a b)

def join (operator : String) (a b : Meaning) : Except Raised Meaning :=
  match if operator = "|" then Formation.choice? a.asType b.asType else none with
  | some t => .type <$> t
  | none =>
    match a, b, index? a, index? b, scaled? a, scaled? b with
    | .type (.key (.bool _)), .type (.key (.bool _)), some m, some n, _, _ =>
      if operator ∈ ["&", "|", "^"] then
        ((compute? operator m n).getD (.error (unsupported operator a b))).map fun n => .ofBool (n ≠ 0)
      else joinNumbers m n
    | _, _, some m, some n, _, _ => joinNumbers m n
    | _, _, _, _, some m, some n => (computeNearest? operator m n).getD (.error (unsupported operator a b))
    | _, _, _, _, _, _ => joinSequences operator a b
where
  joinNumbers (m n : Int) : Except Raised Meaning :=
    match compute? operator m n with
    | some r => ofInt <$> r
    | none => (computeNearest? operator (m, 0) (n, 0)).getD (.error (unsupported operator a b))

def prefixed (operator : String) (m : Meaning) : Except Raised Meaning :=
  let refused : Raised := .type ("bad operand type for unary " ++ operator ++ ": '" ++ m.sort ++ "'")
  match operator, index? m, m with
  | "not", _, _ => .ok (.ofBool !m.isTrue)
  | "-", some n, _ => .ok (ofInt (-n))
  | "+", some n, _ => .ok (ofInt n)
  | "~", some n, _ => .ok (ofInt (-n - 1))
  | "-", none, .type (.key (.decimal (.finite negative m e))) => .ok (.type (.key (.decimal (.finite (!negative) m e))))
  | "+", none, .type (.key (.decimal d)) => .ok (.type (.key (.decimal d)))
  | _, _, _ => .error refused

def hasPart (s t : String) : Bool :=
  (s.splitOn t).length ≠ 1 || t = ""

def contains (container item : Meaning) : Except Raised Bool := do
  match container, text? item, index? item with
  | .items .set ms, _, _ | .dictionary ms _, _, _ =>
    Items.checkKeys [item]
    return Items.isAmong ms item
  | .items _ ms, _, _ => return Items.isAmong ms item
  | .iterator _ _ ms, _, _ => return Items.isAmong (← ms) item
  | .type (.key (.string s)), some t, _ => return hasPart s t
  | .type (.key (.string _)), none, _ =>
    throw (.type ("'in <string>' requires string as left operand, not " ++ item.sort))
  | .bytes s, _, some n => return s.toList.any fun c => (c.toNat : Int) = n
  | .bytes s, _, none =>
    match item with
    | .bytes t => return hasPart s t
    | m => throw (.type ("a bytes-like object is required, not '" ++ m.sort ++ "'"))
  | m, _, _ => throw (.type ("argument of type '" ++ m.sort ++ "' is not iterable"))

def precedes : (depth : Nat) → (operator : String) → (a b : Meaning) → Except Raised Bool
  -- What sequences hold is compared up to the first difference.
  | 0, operator, a, b => .error (notOrdered operator a b)
  | depth + 1, operator, a, b =>
    match scaled? a, scaled? b, a, b with
    | some m, some n, _, _ =>
      let (m, n) := onOneScale m n
      .ok (decided operator (m < n) (m = n))
    | _, _, .type (.key (.string s)), .type (.key (.string t)) => .ok (decided operator (s < t) (s = t))
    | _, _, .bytes s, .bytes t => .ok (decided operator (s < t) (s = t))
    | _, _, .items .set ms, .items .set ns =>
      let (within, around) := (ms.all (Items.isAmong ns), ns.all (Items.isAmong ms))
      .ok (match operator with
        | "<" => within && !around
        | "<=" => within
        | ">" => around && !within
        | _ => around)
    | _, _, .items k ms, .items l ns =>
      if k ≠ l then .error (notOrdered operator a b)
      else match (ms.zip ns).find? fun p => !areEqual p.1 p.2 with
        | some (m, n) => precedes depth operator m n
        | none => .ok (decided operator (ms.length < ns.length) (ms.length = ns.length))
    | _, _, _, _ => .error (notOrdered operator a b)
where
  decided (operator : String) (isLess isEqual : Bool) : Bool :=
    match operator with
    | "<" => isLess
    | "<=" => isLess || isEqual
    | ">" => !isLess && !isEqual
    | _ => !isLess
  notOrdered (operator : String) (a b : Meaning) : Raised :=
    .type ("'" ++ operator ++ "' not supported between instances of '" ++ a.sort ++ "' and '" ++ b.sort ++ "'")

def comparisonDepth : Nat :=
  64

def compare (operator : String) (a b : Meaning) : Except Raised Bool :=
  match operator with
  | "==" => .ok (areEqual a b)
  | "!=" => .ok (!areEqual a b)
  | "is" => .ok (a.asType = b.asType)
  | "is not" => .ok (a.asType ≠ b.asType)
  | "in" => contains b a
  | "not in" => (!·) <$> contains b a
  | _ => precedes comparisonDepth operator a b

def commonMethods : List String :=
  ["__delattr__", "__eq__", "__ge__", "__getattribute__", "__gt__", "__hash__", "__init__", "__le__", "__lt__",
    "__ne__", "__repr__", "__setattr__", "__str__"]

def wrapper (name : String) : Meaning :=
  .thing "wrapper_descriptor" (some name) ("<slot wrapper '" ++ name ++ "' of 'object' objects>")

def ofCommonClass? (className name : String) : Option Meaning :=
  (Text.Template.Kind.common className).memberKind? name |>.map fun (origin, memberKind) =>
    .thing (if memberKind = .wrapper then "wrapper_descriptor" else "method_descriptor") (some name)
      ("<" ++ memberKind.text ++ " '" ++ name ++ "' of '" ++ origin.name ++ "' objects>")

def description (className : String) : Meaning :=
  match (Text.Template.Kind.common className).description? with
  | some s => .ofText s
  | none => .none

def ofClass? (t : ClassTable) (c : ClassHead) (name : String) : Option Meaning :=
  let ancestors := (t.lineage c).map fun d => Meaning.type (.bare d)
  match name with
  | "__name__" => some (.ofText c.name)
  | "__qualname__" => some (.ofText c.qualifiedName)
  | "__module__" => some (.ofText c.module)
  | "__doc__" => if c.module = ClassHead.builtinModule then some (description c.name) else some .none
  | "__class__" => some (.type (.bare (.builtin "type")))
  | "__mro__" => some (.items .tuple ancestors)
  | "__bases__" => some (.items .tuple (ancestors.drop 1 |>.take 1))
  | "__base__" => some ((ancestors.drop 1).headD .none)
  | "__parameters__" =>
    if c.parameters = [] then none
    else some (.items .tuple (c.parameters.map fun p => .type (.variable (.owned c) p)))
  | "__init__" =>
    match t.initializer? c with
    | some (_, i) => some (.ofFunctionName i.name)
    | none => some (wrapper name)
  | _ =>
    if t.hasHook c name then some (.ofFunctionName name)
    else if name = "mro" then some (.bound (.type (.bare c)) name)
    else if name ∈ commonMethods then some (wrapper name)
    else if c.module = ClassHead.builtinModule then ofCommonClass? c.name name
    else none

def ofClass (t : ClassTable) (c : ClassHead) (name : String) : Except Raised Meaning :=
  match ofClass? t c name with
  | some m => .ok m
  | none => .error (.member ("type object '" ++ c.name ++ "' has no attribute '" ++ name ++ "'"))

def isDunder (name : String) : Bool :=
  ['_', '_'].isPrefixOf name.toList && ['_', '_'].isSuffixOf name.toList && 4 < name.length

def noAttribute (m : Meaning) (name : String) : Raised :=
  .member ("'" ++ m.sort ++ "' object has no attribute '" ++ name ++ "'")

def registrationMethods : List String :=
  ["add_scoped", "add_singleton", "add_transient"]

def aliasClass (c : ClassHead) : ClassHead :=
  let name := if TypeExpr.isPlainAlias c then "GenericAlias" else "_GenericAlias"
  { module := if TypeExpr.isPlainAlias c then "types" else TypeExpr.typingModule, qualifiedName := name, name }

def spelled (m : Meaning) (c : ClassHead) : String :=
  match m with
  | .type (.written name _ _) => name
  | _ => c.name

def ofAlias (t : ClassTable) (m : Meaning) (c : ClassHead) (arguments : List TypeExpr) (name : String) :
    Except Raised Meaning :=
  if name = "__origin__" then .ok (.type (.bare c))
  else if name = "__args__" then .ok (.items .tuple (arguments.map .type))
  else if name = "__parameters__" then
    .ok (.items .tuple (((Formation.typeVariablesOfAll arguments).eraseDups).map .type))
  else if name = "__class__" then .ok (.type (.bare (aliasClass c)))
  else if name ∈ ["__name__", "__qualname__"] ∧ !TypeExpr.isPlainAlias c then .ok (.ofText (spelled m c))
  else if isDunder name ∧ !TypeExpr.isPlainAlias c then .error (noAttribute m name)
  else ofClass t c name

def classOf (m : Meaning) : Meaning :=
  match m with
  | .type (.closed c _) | .type (.written _ c _) => .type (.bare (aliasClass c))
  | m => .type (.bare (.builtin m.sort))

def ofValue (m : Meaning) (name : String) : Except Raised Meaning :=
  let number := (index? m).bind fun n => Text.Template.Value.numberMember? n name
  match number, name, (Text.Template.Kind.common m.sort).memberKind? name with
  | some n, _, _ => .ok (ofInt n)
  | none, "__class__", _ => .ok (classOf m)
  | none, "__doc__", _ => .ok (description m.sort)
  | none, _, some (_, .method) => .ok (.bound m name)
  | none, _, some (_, .wrapper) =>
    .ok (.thing "method-wrapper" (some name) ("<method-wrapper '" ++ name ++ "' of " ++ m.sort ++ " object>"))
  | none, _, _ => .error (noAttribute m name)

def classOf? (t : ClassTable) (x : Thing) : Option Meaning :=
  (List.find? (fun k => k.head.name = x.sort && (ClassTable.predefined.find? k.head).isNone) t).map fun k =>
    .type (.bare k.head)

def member (t : ClassTable) (m : Meaning) (name : String) : Except Raised Meaning :=
  match m with
  | .type (.bare c) | .generic none c _ => ofClass t c name
  | .generic (some spelling) c _ =>
    if name ∈ ["__name__", "__qualname__"] then .ok (.ofText spelling) else ofAlias t m c [] name
  | .type (.closed c ts) | .type (.written _ c ts) => ofAlias t m c ts name
  | .form form =>
    if name ∈ ["__name__", "__qualname__"] then .ok (.ofText form) else .error (.member name)
  | .type (.variable _ v) => if name = "__name__" then .ok (.ofText v) else .error (noAttribute m name)
  | .function f =>
    if name ∈ ["__name__", "__qualname__"] then .ok (.ofText f.name) else .error (noAttribute m name)
  | .services => if name ∈ registrationMethods then .ok (.method name) else .error (noAttribute m name)
  | .type (.thing x) =>
    if name = "__class__" ∧ (classOf? t x).isSome then .ok ((classOf? t x).getD .none)
    else if x.sort = Meaning.moduleSort then
      match Library.find? (x.name.getD "") name with
      | some m => .ok m
      | none => .error (.member ("module '" ++ x.name.getD "" ++ "' has no attribute '" ++ name ++ "'"))
    else if name ∈ ["__name__", "__qualname__"] ∧ x.name.isSome then .ok (.ofText (x.name.getD ""))
    else if name = "__module__" ∧ x.sort = Meaning.builtinSort then .ok (.ofText ClassHead.builtinModule)
    else ofValue m name
  | m => ofValue m name

end Wiring.Container.Operation
