import Wiring.Text.Quoted

/-!
Types as the container sees them: the keys of services, and what stands in the initializers of classes. A generic
class may be requested bare or closed over arguments, and a plain value may be the key of a service too.
-/

namespace Wiring.Container

structure ClassHead where
  module : String
  qualifiedName : String
  name : String
  parameters : List String := []
  deriving DecidableEq

namespace ClassHead

def builtinModule : String :=
  "builtins"

def builtin (name : String) : ClassHead where
  module := builtinModule
  qualifiedName := name
  name

def text (c : ClassHead) : String :=
  if c.module = builtinModule then c.qualifiedName else c.module ++ "." ++ c.qualifiedName

end ClassHead

inductive VariableScope where
  | owned (c : ClassHead)
  | initializer (c : ClassHead)
  | unit (name : String)
  | expression (index : Nat)
  deriving DecidableEq

structure Thing where
  sort : String
  name : Option String := none
  text : String
  isKey : Bool := true
  deriving DecidableEq

/-- A type that is `written` under a name of its own is another service than the `closed` class that it stands for.
A `choice` is a union whose members stand between bars. A `forward` type is known by its name only. -/
inductive TypeExpr where
  | bare (c : ClassHead)
  | closed (c : ClassHead) (arguments : List TypeExpr)
  | written (name : String) (c : ClassHead) (arguments : List TypeExpr)
  | variable (scope : VariableScope) (name : String)
  | union (members : List TypeExpr)
  | choice (members : List TypeExpr)
  | forward (name : String)
  | key (value : Json)
  | thing (thing : Thing)
  deriving Inhabited

namespace TypeExpr

mutual

def decEq : (a b : TypeExpr) → Decidable (a = b)
  | .bare c, .bare d => decidable_of_iff (c = d) (by simp)
  | .closed c as, .closed d bs =>
    match decEqAll as bs with
    | isTrue h => decidable_of_iff (c = d) (by simp [h])
    | isFalse h => isFalse (by simp [h])
  | .written n c as, .written m d bs =>
    match decEqAll as bs with
    | isTrue h => decidable_of_iff (n = m ∧ c = d) (by simp [h])
    | isFalse h => isFalse (by simp [h])
  | .variable s n, .variable t m => decidable_of_iff (s = t ∧ n = m) (by simp)
  | .union as, .union bs =>
    match decEqAll as bs with
    | isTrue h => isTrue (by rw [h])
    | isFalse h => isFalse (by simpa using h)
  | .choice as, .choice bs =>
    match decEqAll as bs with
    | isTrue h => isTrue (by rw [h])
    | isFalse h => isFalse (by simpa using h)
  | .forward n, .forward m => decidable_of_iff (n = m) (by simp)
  | .key v, .key w => decidable_of_iff (v = w) (by simp)
  | .thing x, .thing y => decidable_of_iff (x = y) (by simp)
  | .bare _, .closed _ _ | .bare _, .written _ _ _ | .bare _, .variable _ _ | .bare _, .union _
  | .bare _, .choice _ | .bare _, .forward _ | .bare _, .key _ | .bare _, .thing _ | .closed _ _, .bare _
  | .closed _ _, .written _ _ _ | .closed _ _, .variable _ _ | .closed _ _, .union _ | .closed _ _, .choice _
  | .closed _ _, .forward _ | .closed _ _, .key _ | .closed _ _, .thing _ | .written _ _ _, .bare _
  | .written _ _ _, .closed _ _ | .written _ _ _, .variable _ _ | .written _ _ _, .union _
  | .written _ _ _, .choice _ | .written _ _ _, .forward _ | .written _ _ _, .key _ | .written _ _ _, .thing _
  | .variable _ _, .bare _ | .variable _ _, .closed _ _ | .variable _ _, .written _ _ _
  | .variable _ _, .union _ | .variable _ _, .choice _ | .variable _ _, .forward _ | .variable _ _, .key _
  | .variable _ _, .thing _ | .union _, .bare _ | .union _, .closed _ _ | .union _, .written _ _ _
  | .union _, .variable _ _ | .union _, .choice _ | .union _, .forward _ | .union _, .key _
  | .union _, .thing _ | .choice _, .bare _ | .choice _, .closed _ _ | .choice _, .written _ _ _
  | .choice _, .variable _ _ | .choice _, .union _ | .choice _, .forward _ | .choice _, .key _
  | .choice _, .thing _ | .forward _, .bare _ | .forward _, .closed _ _ | .forward _, .written _ _ _
  | .forward _, .variable _ _ | .forward _, .union _ | .forward _, .choice _ | .forward _, .key _
  | .forward _, .thing _ | .key _, .bare _ | .key _, .closed _ _ | .key _, .written _ _ _
  | .key _, .variable _ _ | .key _, .union _ | .key _, .choice _ | .key _, .forward _ | .key _, .thing _
  | .thing _, .bare _ | .thing _, .closed _ _ | .thing _, .written _ _ _ | .thing _, .variable _ _
  | .thing _, .union _ | .thing _, .choice _ | .thing _, .forward _ | .thing _, .key _ =>
    isFalse (by simp)

def decEqAll : (as bs : List TypeExpr) → Decidable (as = bs)
  | [], [] => isTrue rfl
  | [], _ :: _ | _ :: _, [] => isFalse (by simp)
  | a :: as, b :: bs =>
    match decEq a b, decEqAll as bs with
    | isTrue h, isTrue k => isTrue (by rw [h, k])
    | isFalse h, _ => isFalse (by simp [h])
    | _, isFalse k => isFalse (by simp [k])

end

instance : DecidableEq TypeExpr := decEq

def nothing : TypeExpr :=
  .bare (.builtin "NoneType")

def object : ClassHead :=
  .builtin "object"

def callable : ClassHead where
  module := "collections.abc"
  qualifiedName := "Callable"
  name := "Callable"

def typingModule : String :=
  "typing"

def formHead (name : String) : ClassHead where
  module := typingModule
  qualifiedName := name
  name

def generic : ClassHead :=
  formHead "Generic"

def literalForm : ClassHead :=
  formHead "Literal"

def anything : ClassHead :=
  formHead "Any"

def forms : List String :=
  ["ClassVar", "Concatenate", "Final", "Literal", "LiteralString", "Never", "NoReturn", "NotRequired", "Optional",
    "Required", "Self", "TypeAlias", "TypeGuard", "Union", "Unpack"]

def isForm (c : ClassHead) : Bool :=
  c.module = typingModule && c.name ∈ forms

def isPlainAlias (c : ClassHead) : Bool :=
  c.parameters = [] && c.module ≠ typingModule

def valueSort : Json → String
  | .null => "NoneType"
  | .bool _ => "bool"
  | .integer _ => "int"
  | .decimal _ => "float"
  | .string _ => "str"
  | .array _ => "list"
  | .object _ => "dict"

def ellipsis : TypeExpr :=
  .thing { sort := "ellipsis", text := "Ellipsis" }

def standsForParameters : List TypeExpr → Bool
  | [.closed c _] => c = formHead "Concatenate"
  | [t] => t = ellipsis
  | _ => false

def bracketed (c : ClassHead) (arguments : List TypeExpr) (parameters shown : List String) : String :=
  -- The parameters of a callable stand together, in front of its result.
  let parts :=
    if c = callable ∧ shown ≠ [] ∧ !standsForParameters arguments.dropLast then
      ("[" ++ ", ".intercalate parameters.dropLast ++ "]") :: shown.drop (shown.length - 1)
    else shown
  "[" ++ ", ".intercalate parts ++ "]"

def thingSource (inPlain : Bool) (x : Thing) : String :=
  -- A function goes by its name, but one that is not from a script does so in plain types only.
  if x.sort = "ellipsis" then "..."
  else if x.sort = "function" ∨ inPlain ∧ x.sort = "builtin_function_or_method" then x.name.getD x.text
  else x.text

mutual

def source : TypeExpr → String
  | .bare c => c.text
  | .closed c as =>
    let shown := sources (isPlainAlias c) as
    if c = formHead "Unpack" then "*" ++ ", ".intercalate shown else c.text ++ bracketed c as shown shown
  | .written n _ [] => "typing." ++ n
  | .written n c (a :: as) =>
    let shown := argumentSource false a :: sources false as
    "typing." ++ n ++ bracketed c (a :: as) shown shown
  | .variable _ n => "~" ++ n
  | .union ms =>
    let shown := sources false ms
    if ms.length = 2 ∧ nothing ∈ ms then
      "typing.Optional[" ++ ", ".intercalate (((ms.zip shown).filter (·.1 ≠ nothing)).map Prod.snd) ++ "]"
    else "typing.Union[" ++ ", ".intercalate shown ++ "]"
  | .choice ms => " | ".intercalate (((ms.zip (sources true ms)).map fun m => if m.1 = nothing then "None" else m.2))
  | .forward n => "ForwardRef(" ++ Text.quoted n ++ ")"
  | .key v => v.literal
  | .thing x => x.text

def argumentSource (inPlain : Bool) : TypeExpr → String
  | .thing x => thingSource inPlain x
  | t => source t

def sources (inPlain : Bool) : List TypeExpr → List String
  | [] => []
  | a :: as => argumentSource inPlain a :: sources inPlain as

end

def keyText : TypeExpr → String
  | .bare c => if isForm c || c = anything then c.text else "<class '" ++ c.text ++ "'>"
  | t => t.source

mutual

def text : TypeExpr → String
  | .bare c => c.text
  | .closed c as | .written _ c as => c.text ++ bracketed c as (as.map keyText) (texts as)
  | .variable _ n => "~" ++ n
  | .union ms => "Union[" ++ ", ".intercalate (texts ms) ++ "]"
  | .choice ms => "types.UnionType[" ++ ", ".intercalate (texts ms) ++ "]"
  | .forward n => "ForwardRef(" ++ Text.quoted n ++ ")"
  | .key v => v.literal
  | .thing x => x.text

def texts : List TypeExpr → List String
  | [] => []
  | a :: as => text a :: texts as

end

def nameOf (c : ClassHead) : String :=
  if c.name = "" then keyText (.bare c) else c.name

mutual

def shortName : TypeExpr → String
  | .bare c => nameOf c
  | .closed c as | .written _ c as => nameOf c ++ bracketed c as (as.map keyText) (shortNames as)
  | .variable _ n => if n = "" then "~" else n
  | .union ms => "Union[" ++ ", ".intercalate (shortNames ms) ++ "]"
  | .choice ms => "UnionType[" ++ ", ".intercalate (shortNames ms) ++ "]"
  | .forward n => "ForwardRef(" ++ Text.quoted n ++ ")"
  | .key v => v.literal
  | .thing x => x.name.getD x.text

def shortNames : List TypeExpr → List String
  | [] => []
  | a :: as => shortName a :: shortNames as

end

mutual

/-- What two types that are the same service have in common: the members of a union are in no order, and equal
numbers are one key. -/
def identity : TypeExpr → TypeExpr
  | .bare c => .bare c
  | .closed c as => .closed c (identities as)
  | .written n c as => .written n c (identities as)
  | .variable s n => .variable s n
  | .union ms | .choice ms => .union ((identities ms).mergeSort fun a b => a.text ≤ b.text)
  | .forward n => .forward n
  | .key v => .key v.identity
  | .thing x => .thing x

def identities : List TypeExpr → List TypeExpr
  | [] => []
  | a :: as => identity a :: identities as

end

mutual

def unkeyable? : TypeExpr → Option String
  | .closed _ as | .written _ _ as | .union as | .choice as => anyUnkeyable? as
  | .key v => v.unkeyable?
  | .thing x => if x.isKey then none else some x.sort
  | _ => none

def anyUnkeyable? : List TypeExpr → Option String
  | [] => none
  | a :: as => unkeyable? a <|> anyUnkeyable? as

end

def asArgument : TypeExpr → TypeExpr
  | .key .null => nothing
  | .key (.string n) => .forward n
  | t => t

def flatten : TypeExpr → List TypeExpr
  | .union ms | .choice ms => ms
  | t => [t]

def distinct (ts : List TypeExpr) : List TypeExpr :=
  ts.foldl (fun seen t => if seen.any (fun s => s.identity = t.identity) then seen else seen ++ [t]) []

def oneOf (ts : List TypeExpr) : TypeExpr :=
  match distinct (ts.flatMap fun t => flatten t.asArgument) with
  | [t] => t
  | ms => .union ms

def orNothing (t : TypeExpr) : TypeExpr :=
  oneOf [t, nothing]

def close? (c : ClassHead) (arguments : List TypeExpr) : Option TypeExpr :=
  if arguments.length = c.parameters.length ∧ arguments ≠ [] then some (.closed c (arguments.map asArgument))
  else none

def head? : TypeExpr → Option ClassHead
  | .bare c | .closed c _ => some c
  | _ => none

def bindings : TypeExpr → List (String × TypeExpr)
  | .closed c as => Assoc.ofPairs (c.parameters.zip as)
  | _ => []

def openParameters : TypeExpr → List String
  | .bare c => c.parameters
  | _ => []

def literals (ts : List TypeExpr) : List TypeExpr :=
  (ts.flatMap fun
    | t@(.closed c inner) => if c = literalForm then inner else [t]
    | t => [t]).eraseDups

def closeAgain (c : ClassHead) (arguments : List TypeExpr) : TypeExpr :=
  -- One without parameters takes the arguments as they are, and the form of literals each of them once.
  .closed c (
    if isPlainAlias c then arguments
    else if c = literalForm then literals arguments
    else arguments.map asArgument)

def keepParameters (c : ClassHead) (arguments others : List TypeExpr) : List TypeExpr :=
  if c = callable then arguments.dropLast ++ others.drop (arguments.length - 1) else others

mutual

def substitute (m : List (String × TypeExpr)) : TypeExpr → TypeExpr
  -- Where nothing changes a type stays as it was written.
  | .bare c => .bare c
  | .closed c as => if substituteAll m as = as then .closed c as else closeAgain c (substituteAll m as)
  | .written n c as =>
    let others := keepParameters c as (substituteAll m as)
    if others = as then .written n c as else closeAgain c others
  | .variable s n => (Assoc.find? n m).getD (.variable s n)
  | .union ms => if substituteAll m ms = ms then .union ms else oneOf (substituteAll m ms)
  | .choice ms => .choice ms
  | .forward n => .forward n
  | .key v => .key v
  | .thing x => .thing x

def substituteAll (m : List (String × TypeExpr)) : List TypeExpr → List TypeExpr
  | [] => []
  | a :: as => substitute m a :: substituteAll m as

end

/-! A class takes equal arguments once: a type that is made of such again is the one made first. -/

def makeup : TypeExpr → TypeExpr
  | .closed c as => .closed c (identities as)
  | .union ms => .union (identities ms)
  | t => t

mutual

def made : TypeExpr → List TypeExpr
  | .closed c as => madeForAll as ++ [.closed c as]
  | .written _ _ as => madeForAll as
  | .union ms => madeForAll ms ++ [.union ms]
  | _ => []

def madeForAll : List TypeExpr → List TypeExpr
  | [] => []
  | a :: as => made a ++ madeForAll as

end

mutual

def reuse (earlier : List TypeExpr) : TypeExpr → TypeExpr
  | .closed c as =>
    let t := .closed c (reuseAll earlier as)
    if isPlainAlias c then t else (earlier.find? fun e => e.makeup = t.makeup).getD t
  | .union ms =>
    let t := .union (reuseAll earlier ms)
    (earlier.find? fun e => e.makeup = t.makeup).getD t
  | .written n c as => .written n c (reuseAll earlier as)
  | t => t

def reuseAll (earlier : List TypeExpr) : List TypeExpr → List TypeExpr
  | [] => []
  | a :: as => reuse earlier a :: reuseAll earlier as

end

def withNothing (ts : List TypeExpr) : List TypeExpr :=
  ts.map fun t => if t = .key .null then nothing else t

def choiceOf (ts : List TypeExpr) : TypeExpr :=
  match distinct (ts.flatMap flatten) with
  | [t] => t
  | ms => .choice ms

mutual

def settle {ε : Type} (read : String → Except ε TypeExpr) : TypeExpr → Except ε TypeExpr
  | .closed c as => do return .closed c (← settleAll read (isPlainAlias c) as)
  | .written n c as => do return .written n c (← settleAll read false as)
  | .union ms => do
    let found ← settleAll read false ms
    return if found = ms then .union ms else oneOf found
  | .choice ms => do
    let found ← settleAll read false ms
    return if found = ms then .choice ms else choiceOf found
  | .forward n => read n
  | t => .ok t

def settleAll {ε : Type} (read : String → Except ε TypeExpr) (holdsTexts : Bool) :
    List TypeExpr → Except ε (List TypeExpr)
  | [] => .ok []
  | a :: as => do
    let a ← match holdsTexts, a with
      | true, .key (.string n) => read n
      | _, a => settle read a
    return a :: (← settleAll read holdsTexts as)

end

mutual

def forwardNames : TypeExpr → List String
  | .closed _ as | .written _ _ as | .union as | .choice as => allForwardNames as
  | .forward n => [n]
  | _ => []

def allForwardNames : List TypeExpr → List String
  | [] => []
  | a :: as => forwardNames a ++ allForwardNames as

end

def inModule (module name : String) : String :=
  if module = "" then name else module ++ "." ++ name

def loggerName : TypeExpr → String
  | .bare c => inModule c.module (if c.qualifiedName = "" then nameOf c else c.qualifiedName)
  | t@(.closed c _) => inModule c.module (if c.name = "" then t.source else c.name)
  | .written n _ _ => "typing." ++ n
  | .variable (.unit u) n => u ++ "." ++ n
  | .variable _ n => n
  | .union ms => if ms.length = 2 ∧ nothing ∈ ms then "typing.Optional" else "typing.Union"
  | t@(.choice _) => "types." ++ t.source
  | t@(.forward _) => "typing." ++ t.text
  | .key v => v.literal
  | .thing x => x.name.getD x.text

def contextLogger : ClassHead where
  module := "miraveja_digen.infrastructure.runtime.context_logger"
  qualifiedName := "ContextLogger"
  name := "ContextLogger"
  parameters := ["T"]

def providerInterface : ClassHead where
  module := "miraveja_digen.domain.interfaces"
  qualifiedName := "IServiceProvider"
  name := "IServiceProvider"

def providerClass : ClassHead where
  module := "miraveja_digen.infrastructure.runtime.provider"
  qualifiedName := "ServiceProvider"
  name := "ServiceProvider"

def isProvider (t : TypeExpr) : Bool :=
  t = .bare providerInterface || t = .bare providerClass

end TypeExpr

end Wiring.Container
