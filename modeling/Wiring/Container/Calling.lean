import Wiring.Container.Operation
import Wiring.Text.Blank
import Wiring.Text.Template.Value

/-!
What functions and classes that need no import make of their arguments, as far as they look at numbers, texts and
collections.
-/

namespace Wiring.Container.Calling

open Indexing (index?)
open Operation (ofInt text?)

abbrev Arguments := List Meaning × List (String × Meaning)

def wrongValue (message : String) : Raised where
  kind := "ValueError"
  message := message

def invalidKeyword (function name : String) : Raised :=
  .type ("'" ++ name ++ "' is an invalid keyword argument for " ++ function ++ "()")

def noKeywords (function : String) : Raised :=
  .type (function ++ "() takes no keyword arguments")

def notWhole (m : Meaning) : Raised :=
  .type ("'" ++ m.sort ++ "' object cannot be interpreted as an integer")

def wholeNumber (m : Meaning) : Except Raised Int :=
  match index? m with
  | some n => .ok n
  | none => .error (notWhole m)

/-! Numbers from texts. -/

def digits? (cs : List Char) : Option Nat :=
  let groups := Text.pieces '_' cs
  if groups.all fun g => g ≠ [] && g.all Char.isDigit then some (Text.natOfDigits groups.flatten) else none

def signed (cs : List Char) : Bool × List Char :=
  match cs with
  | '-' :: r => (true, r)
  | '+' :: r => (false, r)
  | cs => (false, cs)

def readWhole? (s : String) : Option Int := do
  let (negative, cs) := signed (Text.trimBlanks s.toList)
  let n ← digits? cs
  return if negative then -(n : Int) else n

def readDecimal? (s : String) : Option Double := do
  let (negative, cs) := signed (Text.trimBlanks s.toList)
  let cs := cs.map Char.toLower
  if String.ofList cs ∈ ["inf", "infinity"] then return .infinite negative
  if String.ofList cs = "nan" then return .notANumber
  let (front, power) := (cs.takeWhile (· ≠ 'e'), cs.dropWhile (· ≠ 'e'))
  let exponent ← if power = [] then some 0 else
    let (below, ds) := signed power.tail
    (digits? ds).map fun n => if below then -(n : Int) else (n : Int)
  let (wholes, parts) := (front.takeWhile (· ≠ '.'), (front.dropWhile (· ≠ '.')).tail)
  let places (cs : List Char) : Option (List Char) :=
    if cs = [] then some [] else (digits? cs).map fun _ => cs.filter (· ≠ '_')
  let wholes ← places wholes
  let parts ← places parts
  if wholes = [] ∧ parts = [] then none
  else some (.ofDecimal negative (Text.natOfDigits (wholes ++ parts)) (exponent - parts.length))

def truncated (negative : Bool) (m : Nat) (e : Int) : Int :=
  let size : Nat := (m <<< e.toNat) >>> (-e).toNat
  if negative then -(size : Int) else size

def toWhole (m : Meaning) : Except Raised Int :=
  match index? m, m with
  | some n, _ => .ok n
  | none, .type (.key (.string s)) =>
    match readWhole? s with
    | some n => .ok n
    | none => .error (wrongValue ("invalid literal for int() with base 10: " ++ Text.quoted s))
  | none, .type (.key (.decimal (.finite negative n e))) => .ok (truncated negative n e)
  | none, m => .error (.type
      ("int() argument must be a string, a bytes-like object or a real number, not '" ++ m.sort ++ "'"))

def toDecimal (m : Meaning) : Except Raised Double :=
  match index? m, m with
  | some n, _ => .ok (.ofInt n)
  | none, .type (.key (.decimal d)) => .ok d
  | none, .type (.key (.string s)) =>
    match readDecimal? s with
    | some d => .ok d
    | none => .error (wrongValue ("could not convert string to float: " ++ Text.quoted s))
  | none, m => .error (.type ("float() argument must be a string or a real number, not '" ++ m.sort ++ "'"))

def rounded (m : Meaning) : Except Raised Int :=
  match index? m, m with
  | some n, _ => .ok n
  | none, .type (.key (.decimal (.finite negative n e))) =>
    let size := roundDiv (n <<< e.toNat) (1 <<< (-e).toNat)
    .ok (if negative then -(size : Int) else size)
  | none, m => .error (.type ("type " ++ m.sort ++ " doesn't define __round__ method"))

/-! Texts of values. -/

def templateValue (m : Meaning) : Text.Template.Value :=
  match m with
  | .type (.key .null) => .nothing
  | .type (.key (.string s)) => .ofString s
  | .type (.key (.integer n)) => .whole n
  | .type (.key (.bool b)) => .truth b
  | m => .thing (.common m.sort) m.shown m.text []

def ofTemplate {α : Type} (m : Meaning) (r : Except Text.Template.Fault α) : Except Raised α :=
  r.mapError fun
    | .misused => .type ("unsupported format string passed to " ++ m.sort ++ ".__format__")
    | .outOfRange n => { kind := "IndexError", message := (Text.Template.Fault.outOfRange n).message }
    | .unknownName s => { kind := "KeyError", message := (Text.Template.Fault.unknownName s).message }
    | fault => wrongValue fault.message

def layOut (m : Meaning) (layout : List Char) : Except Raised String :=
  ofTemplate m (String.ofList <$> (templateValue m).layOut layout)

def converted (m : Meaning) : Option Char → Meaning
  | none => m
  | some 's' => .ofText m.shown
  | some 'r' => .ofText m.text
  | some _ => .ofText (Operation.asciiText m)

def toBase (base : Nat) (mark : String) (n : Int) : String :=
  (if n < 0 then "-" else "") ++ mark ++ String.ofList (Nat.toDigits base n.natAbs)

/-! Numbers of arguments. -/

inductive Arity where
  | exactly (count : Nat)
  | expected (least most : Nat)
  | taken (least most : Nat)

def counted (bound : String) (n : Nat) : String :=
  bound ++ toString n ++ (if n = 1 then " argument" else " arguments")

def Arity.fault? (name longName : String) (count : Nat) : Arity → Option Raised
  | exactly n =>
    if count = n then none
    else
      let wanted := if n = 0 then "no arguments" else "exactly one argument"
      some (.type (longName ++ "() takes " ++ wanted ++ " (" ++ toString count ++ " given)"))
  | expected least most =>
    if least ≤ count ∧ count ≤ most then none
    else
      let wanted := if least = most then counted "" least
        else if count < least then counted "at least " least else counted "at most " most
      some (.type (name ++ " expected " ++ wanted ++ ", got " ++ toString count))
  | taken least most =>
    if least ≤ count ∧ count ≤ most then none
    else
      let wanted := if count < least then counted "at least " least else counted "at most " most
      some (.type (name ++ "() takes " ++ wanted ++ " (" ++ toString count ++ " given)"))

def arity? (table : List (Arity × String)) (name : String) : Option Arity :=
  (table.find? fun r => (Text.pieces ' ' r.2.toList).any (· = name.toList)).map Prod.fst

def functionArities : List (Arity × String) :=
  [(.exactly 1, "abs all any ascii bin callable chr hash hex id len oct ord repr"),
    (.expected 2 2, "divmod hasattr isinstance issubclass"), (.expected 1 2, "format iter next"),
    (.expected 2 3, "getattr"), (.expected 1 3, "eval exec")]

def classArities : List (Arity × String) :=
  [(.expected 0 1, "bool float"), (.taken 0 2, "int"), (.taken 0 3, "str bytes"), (.expected 1 3, "slice"),
    (.expected 2 2, "filter"), (.expected 1 1, "reversed")]

def arityFault? (name : String) (arguments : Arguments) : Option Raised := do
  let arity ← arity? functionArities name
  if !arguments.2.isEmpty then some (noKeywords name)
  else arity.fault? name name arguments.1.length

/-! Classes. -/

def collected (name : String) (arguments : Arguments) : Except Raised (List Meaning) :=
  match arguments with
  | ([], []) => .ok []
  | ([m], []) => Items.ofMeaning m
  | (_, _ :: _) => .error (noKeywords name)
  | (ms, []) => .error (.type (name ++ " expected at most 1 argument, got " ++ toString ms.length))

def pair (i : Nat) (m : Meaning) : Except Raised (Meaning × Meaning) := do
  let ms ← (Items.ofMeaning m).mapError fun _ =>
    .type ("cannot convert dictionary update sequence element #" ++ toString i ++ " to a sequence")
  match ms with
  | [k, v] => return (k, v)
  | ms => throw (wrongValue ("dictionary update sequence element #" ++ toString i ++ " has length " ++
      toString ms.length ++ "; 2 is required"))

def dictionaryOf (arguments : Arguments) : Except Raised Meaning := do
  let named := arguments.2.map fun a => (Meaning.ofText a.1, a.2)
  match arguments.1 with
  | [] => Items.dictionary named
  | [.dictionary ks vs] => Items.dictionary (ks.zip vs ++ named)
  | [m] =>
    let entries ← (← Items.ofMeaning m).zipIdx.mapM fun (m, i) => pair i m
    Items.dictionary (entries ++ named)
  | ms => throw (.type ("dict expected at most 1 argument, got " ++ toString ms.length))

def longestRange : Nat :=
  65536

def range (first last step : Int) : Meaning :=
  let count : Int := if 0 < step then (last - first + step - 1) / step else (first - last - step - 1) / (-step)
  let items := (List.range (min count.toNat longestRange)).map fun (i : Nat) => ofInt (first + (i : Int) * step)
  let bounds := toString first ++ ", " ++ toString last ++ (if step = 1 then "" else ", " ++ toString step)
  .iterator "range" ("range(" ++ bounds ++ ")") (.ok items)

def rangeOf (ms : List Meaning) : Except Raised Meaning := do
  match ← ms.mapM wholeNumber with
  | [] => throw (.type "range expected at least 1 argument, got 0")
  | [last] => return range 0 last 1
  | [first, last] => return range first last 1
  | [first, last, step] =>
    if step = 0 then throw (wrongValue "range() arg 3 must not be zero")
    return range first last step
  | ns => throw (.type ("range expected at most 3 arguments, got " ++ toString ns.length))

def object (sort : String) : String :=
  "<" ++ sort ++ " object>"

def lazily (sort : String) (items : List Meaning) : Meaning :=
  .iterator sort (object sort) (.ok items)

def columns : List (List Meaning) → List (List Meaning)
  | [] => []
  | [row] => row.map fun m => [m]
  | row :: rows => row.zipWith (· :: ·) (columns rows)

def isReversible : Meaning → Bool
  | .items .set _ => false
  | .items .. | .dictionary .. | .bytes _ | .type (.key (.string _)) | .iterator "range" .. => true
  | _ => false

def bytesOf (arguments : Arguments) : Except Raised Meaning := do
  let byte (m : Meaning) : Except Raised Char := do
    let n ← wholeNumber m
    if 0 ≤ n ∧ n < 256 then return Char.ofNat n.toNat else throw (wrongValue "bytes must be in range(0, 256)")
  match arguments with
  | ([], []) => return .bytes ""
  | (.type (.key (.string s)) :: _ :: _, _) | (.type (.key (.string s)) :: _, _ :: _) =>
    return .bytes (String.ofList (s.toUTF8.toList.map fun b => Char.ofNat b.toNat))
  | ([.type (.key (.string _))], []) => throw (.type "string argument without an encoding")
  | ([.bytes s], []) => return .bytes s
  | ([m], []) =>
    match index? m with
    | some n =>
      if n < 0 then throw (wrongValue "negative count")
      return .bytes (String.ofList (List.replicate (min n.toNat longestRange) '\x00'))
    | none =>
      let ms ← (Items.ofMeaning m).mapError fun _ => .type ("cannot convert '" ++ m.sort ++ "' object to bytes")
      return .bytes (String.ofList (← ms.mapM byte))
  | _ => throw (.type "bytes() takes at most 3 arguments")

def made? (name : String) (arguments : Arguments) : Option (Except Raised Meaning) :=
  match name, arguments with
  | "type", ([m], []) => some (.ok (Operation.classOf m))
  | "type", ([_], _) => some (.error (.type "type() takes no keyword arguments"))
  | "type", (ms, _) => if ms.length = 3 then none else some (.error (.type "type() takes 1 or 3 arguments"))
  | "object", ([], []) => none
  | "object", _ => some (.error (.type "object() takes no arguments"))
  | "int", (_, (k, _) :: _) | "str", (_, (k, _) :: _) => some (.error (invalidKeyword name k))
  | "int", ([], []) => some (.ok (ofInt 0))
  | "int", ([m], []) => some (ofInt <$> toWhole m)
  | "str", ([], []) => some (.ok (.ofText ""))
  | "str", ([m], []) => some (.ok (.ofText m.shown))
  | "bool", ([], []) => some (.ok (.ofBool false))
  | "bool", ([m], []) => some (.ok (.ofBool m.isTrue))
  | "float", ([], []) => some (.ok (.type (.key (.decimal .zero))))
  | "float", ([m], []) => some ((fun d => .type (.key (.decimal d))) <$> toDecimal m)
  | "bytes", _ => some (bytesOf arguments)
  | "tuple", _ => some (.items .tuple <$> collected name arguments)
  | "list", _ => some (.items .list <$> collected name arguments)
  | "set", _ => some do Items.asSet (← collected name arguments)
  | "frozenset", _ => some do
    let set ← Items.asSet (← collected name arguments)
    return .thing name none (name ++ "(" ++ (if set.isTrue then set.text else "") ++ ")")
  | "dict", _ => some (dictionaryOf arguments)
  | "slice", ([m], []) => some (.ok (.slice [.none, m, .none]))
  | "slice", ([m, n], []) => some (.ok (.slice [m, n, .none]))
  | "slice", ([l, m, n], []) => some (.ok (.slice [l, m, n]))
  | "range", (_, _ :: _) | "slice", (_, _ :: _) | "reversed", (_, _ :: _) => some (.error (noKeywords name))
  | "range", (ms, []) => some (rangeOf ms)
  | "enumerate", ([], _) => some (.error (.type "enumerate() missing required argument 'iterable' (pos 1)"))
  | "map", ([], _) | "map", ([_], _) => some (.error (.type "map() must have at least two arguments."))
  | "map", (_ :: ms, _) | "filter", (_ :: ms, _) => some do
    let _ ← ms.mapM Items.ofMeaning
    return lazily name []
  | "enumerate", (m :: start, _) => some do
    let first ← (start.head?.map wholeNumber).getD (.ok 0)
    let ms ← Items.ofMeaning m
    return lazily name (ms.zipIdx.map fun (m, i) => .items .tuple [ofInt (first + (i : Int)), m])
  | "zip", (ms, _) => some do
    let rows ← ms.mapM Items.ofMeaning
    return lazily name ((columns rows).map (.items .tuple))
  | "reversed", ([m], []) => some do
    if !isReversible m then throw (.type ("'" ++ m.sort ++ "' object is not reversible"))
    return lazily name (← Items.ofMeaning m).reverse
  | _, _ => none

def ofClass? (name : String) (arguments : Arguments) : Option (Except Raised Meaning) :=
  match (arity? classArities name).bind fun a => a.fault? name name arguments.1.length with
  | some r => some (.error r)
  | none => made? name arguments

/-! Functions. -/

def sizeOf (m : Meaning) : Except Raised Int :=
  match m with
  | .items _ ms | .dictionary ms _ | .iterator "range" _ (.ok ms) => .ok ms.length
  | .bytes s | .type (.key (.string s)) => .ok s.length
  | m => .error (.type ("object of type '" ++ m.sort ++ "' has no len()"))

def isCallable (t : ClassTable) (m : Meaning) : Bool :=
  match m with
  | .type (.bare _) | .type (.closed ..) | .type (.written ..) | .type (.union _) | .generic .. | .form _
  | .function _ | .method _ | .bound .. => true
  | .type (.thing x) =>
    x.sort ∈ [Meaning.functionSort, Meaning.builtinSort, "method_descriptor", "wrapper_descriptor", "method-wrapper"] ||
      t.any fun k => k.head.name = x.sort && t.hasHook k.head "__call__"
  | _ => false

def extreme (operator : String) : Meaning → List Meaning → Except Raised Meaning
  | best, [] => .ok best
  | best, m :: ms => do
    if ← Operation.compare operator m best then extreme operator m ms else extreme operator best ms

def extremeOf (name operator : String) (arguments : Arguments) : Except Raised Meaning := do
  match arguments.1 with
  | [] => throw (.type (name ++ " expected at least 1 argument, got 0"))
  | [m] =>
    match ← Items.ofMeaning m, Assoc.find? "default" arguments.2 with
    | [], some m => return m
    | [], none => throw (wrongValue (name ++ "() arg is an empty sequence"))
    | m :: ms, _ => extreme operator m ms
  | m :: ms => extreme operator m ms

def insertSorted (m : Meaning) : List Meaning → Except Raised (List Meaning)
  | [] => .ok [m]
  | a :: r => do
    if ← Operation.compare "<" m a then
      return a :: (← insertSorted m r)
    else return m :: a :: r

def descending : List Meaning → List Meaning → Except Raised (List Meaning)
  | sorted, [] => .ok sorted
  | sorted, m :: ms => do descending (← insertSorted m sorted) ms

def total : Meaning → List Meaning → Except Raised Meaning
  | m, [] => .ok m
  | m, a :: r => do total (← Operation.join "+" m a) r

def ofFunction (t : ClassTable) (name : String) (arguments : Arguments) : Except Raised Meaning := do
  if let some r := arityFault? name arguments then throw r
  match name, arguments.1 with
  | "abs", [m] =>
    match index? m, m with
    | some n, _ => return ofInt n.natAbs
    | none, .type (.key (.decimal (.finite _ m e))) => return .type (.key (.decimal (.finite false m e)))
    | none, m => throw (.type ("bad operand type for abs(): '" ++ m.sort ++ "'"))
  | "all", [m] => return .ofBool ((← Items.ofMeaning m).all Meaning.isTrue)
  | "any", [m] => return .ofBool ((← Items.ofMeaning m).any Meaning.isTrue)
  | "ascii", [m] => return .ofText (Operation.asciiText m)
  | "bin", [m] => return .ofText (toBase 2 "0b" (← wholeNumber m))
  | "oct", [m] => return .ofText (toBase 8 "0o" (← wholeNumber m))
  | "hex", [m] => return .ofText (toBase 16 "0x" (← wholeNumber m))
  | "callable", [m] => return .ofBool (isCallable t m)
  | "chr", [m] =>
    let n ← wholeNumber m
    if 0 ≤ n ∧ n < 0x110000 then return .ofText (Char.ofNat n.toNat).toString
    else throw (wrongValue "chr() arg not in range(0x110000)")
  | "ord", [m] =>
    match m with
    | .type (.key (.string s)) | .bytes s =>
      match s.toList with
      | [c] => return ofInt c.toNat
      | cs => throw (.type ("ord() expected a character, but string of length " ++ toString cs.length ++ " found"))
    | m => throw (.type ("ord() expected string of length 1, but " ++ m.sort ++ " found"))
  | "hash", [m] =>
    Items.checkKeys [m]
    match index? m with
    | some n =>
      let size := n.natAbs % 0x1fffffffffffffff
      return ofInt (if n < 0 then (if size = 1 then -2 else -(size : Int)) else size)
    | none => return .thing "object" none "<object>"
  | "len", [m] => ofInt <$> sizeOf m
  | "repr", [m] => return .ofText m.text
  | "format", [m] => .ofText <$> layOut m []
  | "format", [m, layout] =>
    match layout with
    | .type (.key (.string s)) => .ofText <$> layOut m s.toList
    | layout => throw (.type ("format() argument 2 must be str, not " ++ layout.sort))
  | "divmod", [a, b] =>
    match index? a, index? b with
    | some m, some n =>
      if n = 0 then throw (Operation.byZero "integer division or modulo by zero")
      return .items .tuple [ofInt (m.fdiv n), ofInt (m.fmod n)]
    | _, _ => throw (Operation.unsupported "divmod()" a b)
  | "pow", [a, b] => Operation.join "**" a b
  | "pow", [] => throw (.type "pow() missing required argument 'base' (pos 1)")
  | "pow", [_] => throw (.type "pow() missing required argument 'exp' (pos 2)")
  | "round", [m] | "round", [m, .type (.key .null)] => ofInt <$> rounded m
  | "round", [] => throw (.type "round() missing required argument 'number' (pos 1)")
  | "round", m :: _ => if (index? m).isSome then return m else discard (rounded m); return .thing "float" none "<float>"
  | "max", _ => extremeOf name ">" arguments
  | "min", _ => extremeOf name "<" arguments
  | "sum", m :: start =>
    match start with
    | .type (.key (.string _)) :: _ => throw (.type "sum() can't sum strings [use ''.join(seq) instead]")
    | start => total (start.headD (ofInt 0)) (← Items.ofMeaning m)
  | "sum", [] => throw (.type "sum() takes at least 1 positional argument (0 given)")
  | "sorted", [m] =>
    let ms ← descending [] (← Items.ofMeaning m)
    let isReversed := ((Assoc.find? "reverse" arguments.2).map Meaning.isTrue).getD false
    return .items .list (if isReversed then ms else ms.reverse)
  | "sorted", ms => throw (.type ("sorted expected 1 argument, got " ++ toString ms.length))
  | "iter", [m] =>
    let ms ← Items.ofMeaning m
    match m with
    | .iterator sort text r =>
      if sort = "range" then return lazily "range_iterator" ms else return .iterator sort text r
    | m => return lazily (m.sort ++ "_iterator") ms
  | "next", m :: default =>
    match m, default with
    | .iterator "range" _ _, _ => throw (.type "'range' object is not an iterator")
    | .iterator _ _ ms, default =>
      match ← ms, default with
      | m :: _, _ | [], m :: _ => return m
      | [], [] => throw { kind := "StopIteration", message := "" }
    | m, _ => throw (.type ("'" ++ m.sort ++ "' object is not an iterator"))
  | "getattr", m :: name :: default =>
    match name, default with
    | .type (.key (.string s)), [] => Operation.member t m s
    | .type (.key (.string s)), default :: _ =>
      match Operation.member t m s with
      | .ok m => return m
      | .error _ => return default
    | name, _ => throw (.type ("attribute name must be string, not '" ++ name.sort ++ "'"))
  | "hasattr", [m, name] =>
    match name with
    | .type (.key (.string s)) => return .ofBool (Operation.member t m s).toOption.isSome
    | name => throw (.type ("attribute name must be string, not '" ++ name.sort ++ "'"))
  | "isinstance", [m, c] => .ofBool <$> isInstance m c
  | "issubclass", [m, c] => .ofBool <$> isBelow m c
  | "print", _ =>
    match arguments.2.find? fun a => a.1 ∉ ["sep", "end", "file", "flush"] with
    | some a => throw (invalidKeyword name a.1)
    | none => return .none
  | "eval", m :: _ | "exec", m :: _ =>
    if (text? m).isSome then return .none
    else throw (.type (name ++ "() arg 1 must be a string, bytes or code object"))
  | "setattr", _ | "delattr", _ => return .none
  | _, _ => return .thing "object" none "<object>"
where
  classes (c : Meaning) (refusal : String) : Except Raised (List ClassHead) := do
    match c with
    | .type (.bare c) | .generic none c _ | .generic (some _) c _ => return [c]
    | .items .tuple ms => ms.filterMapM fun
        | .type (.bare c) | .generic _ c _ => return some c
        | _ => throw (.type refusal)
    | .type (.choice ts) => return ts.filterMap fun
        | .bare c => some c
        | .key .null => some (.builtin "NoneType")
        | _ => none
    | .type (.closed c _) =>
      if TypeExpr.isPlainAlias c then
        throw (.type (String.ofList (refusal.toList.takeWhile (· ≠ ' ')) ++
          " argument 2 cannot be a parameterized generic"))
      else throw (.type "Subscripted generics cannot be used with class and instance checks")
    | .type (.written ..) | .type (.union _) =>
      throw (.type "Subscripted generics cannot be used with class and instance checks")
    | _ => throw (.type refusal)
  isInstance (m c : Meaning) : Except Raised Bool := do
    let cs ← classes c "isinstance() arg 2 must be a type, a tuple of types, or a union"
    let isOf (c : ClassHead) : Bool :=
      c = TypeExpr.object || c = .builtin m.sort || (m.sort = "bool" && c = .builtin "int") ||
        (m.sort ∈ ["ABCMeta", "_AnyMeta"] && c = .builtin "type") ||
        t.any fun k => k.head.name = m.sort && t.derives k.head c
    return cs.any isOf
  isBelow (m c : Meaning) : Except Raised Bool := do
    match m with
    | .type (.bare d) | .generic none d _ =>
      let cs ← classes c "issubclass() arg 2 must be a class, a tuple of classes, or a union"
      let isOver (c : ClassHead) : Bool :=
        c = d || c = TypeExpr.object || t.derives d c || (d = .builtin "bool" && c = .builtin "int")
      return cs.any isOver
    | _ => throw (.type "issubclass() arg 1 must be a class")

end Wiring.Container.Calling
