import Wiring.Container.TypeExpr
import Wiring.Script.Expression

/-!
What the names and expressions of scripts stand for: types and plain values, types that are not complete, and the
collections, functions and registrations that scripts work with.
-/

namespace Wiring.Container

structure Raised where
  kind : String
  message : String
  deriving DecidableEq

def Raised.type (message : String) : Raised where
  kind := "TypeError"
  message := message

def Raised.member (message : String) : Raised where
  kind := "AttributeError"
  message := message

structure Function where
  -- What the parameters are said to be, and their defaults, is known when the function is defined.
  name : String
  parameters : List (Script.Parameter TypeExpr)
  body : List Script.Statement

/-- A `generic` takes arguments, as many as `count` says if it says so; with a `spelling` it is a type of its own. A
`form` is no type by itself. An `iterator` has its items when it is run through, unless that fails. The `services`
are the registrations that a script adds to, with methods to do so; what is `bound` is a method of any other value. -/
inductive Meaning where
  | type (type : TypeExpr)
  | generic (spelling : Option String) (c : ClassHead) (count : Option Nat)
  | form (name : String)
  | items (kind : Script.CollectionKind) (items : List Meaning)
  | dictionary (keys values : List Meaning)
  | bytes (content : String)
  | iterator (sort text : String) (items : Except Raised (List Meaning))
  | slice (parts : List Meaning)
  | function (f : Function)
  | services
  | method (name : String)
  | bound (subject : Meaning) (name : String)

namespace Meaning

def none : Meaning :=
  .type (.key .null)

def ofBool (b : Bool) : Meaning :=
  .type (.key (.bool b))

def ofText (s : String) : Meaning :=
  .type (.key (.string s))

def thing (sort : String) (name : Option String) (text : String) : Meaning :=
  .type (.thing { sort, name, text })

def moduleSort : String :=
  "module"

def ofModule (name : String) : Meaning :=
  thing moduleSort (some name) ("<module '" ++ name ++ "'>")

def functionSort : String :=
  "function"

def builtinSort : String :=
  "builtin_function_or_method"

def ofFunctionName (name : String) : Meaning :=
  thing functionSort (some name) ("<function " ++ name ++ ">")

def collectionSort : Script.CollectionKind → String
  | .tuple => "tuple"
  | .list => "list"
  | .set => "set"

def collectionText (kind : Script.CollectionKind) (items : List String) : String :=
  match kind, items with
  | .tuple, [a] => "(" ++ a ++ ",)"
  | .tuple, items => "(" ++ ", ".intercalate items ++ ")"
  | .list, items => "[" ++ ", ".intercalate items ++ "]"
  | .set, [] => "set()"
  | .set, items => "\x7b" ++ ", ".intercalate items ++ "\x7d"

def dictionaryText (keys values : List String) : String :=
  "\x7b" ++ ", ".intercalate (keys.zipWith (· ++ ": " ++ ·) values) ++ "\x7d"

def bytesText (content : String) : String :=
  let cs := content.toList
  let quote := Text.quoteFor cs
  let escaped (c : Char) : List Char := if c.toNat < 127 then Text.escapedIn quote c else Text.numericEscape c
  "b" ++ String.ofList (quote :: cs.flatMap escaped ++ [quote])

mutual

def asType : Meaning → TypeExpr
  | type t => t
  | generic (some spelling) c _ => .written spelling c []
  | generic .none c _ => .bare c
  | form name => .bare (TypeExpr.formHead name)
  | items kind ms =>
    let types := asTypes ms
    .thing {
      sort := collectionSort kind
      text := collectionText kind (types.map TypeExpr.keyText)
      isKey := kind = .tuple && (TypeExpr.anyUnkeyable? types).isNone }
  | dictionary keys values =>
    let text := dictionaryText ((asTypes keys).map TypeExpr.keyText) ((asTypes values).map TypeExpr.keyText)
    .thing { sort := "dict", text, isKey := false }
  | bytes content => .thing { sort := "bytes", text := bytesText content }
  | iterator sort text _ => .thing { sort, text }
  | slice parts =>
    let text := "slice(" ++ ", ".intercalate ((asTypes parts).map TypeExpr.keyText) ++ ")"
    .thing { sort := "slice", text, isKey := false }
  | function f => .thing { sort := functionSort, name := some f.name, text := "<function " ++ f.name ++ ">" }
  | services => .thing { sort := "ServiceCollection", text := "<ServiceCollection object>" }
  | method name => .thing { sort := "method", name := some name, text := "<bound method " ++ name ++ ">" }
  | bound _ name =>
    .thing { sort := builtinSort, name := some name, text := "<built-in method " ++ name ++ ">" }

def asTypes : List Meaning → List TypeExpr
  | [] => []
  | m :: ms => asType m :: asTypes ms

end

def text (m : Meaning) : String :=
  m.asType.keyText

def shown : Meaning → String
  | .type (.key (.string s)) => s
  | m => m.text

def arguments : Meaning → List Meaning
  | items .tuple ms => ms
  | m => [m]

def isTrue : Meaning → Bool
  | .type (.key v) => v.isTruthy
  | .items _ ms | .dictionary ms _ | .iterator "range" _ (.ok ms) => !ms.isEmpty
  | .bytes content => content ≠ ""
  | _ => true

def classSort (c : ClassHead) : String :=
  if c = TypeExpr.providerInterface ∨ c = TypeExpr.providerClass ∨ c.module = "collections.abc" ∨ c.module = "abc" then
    "ABCMeta"
  else if c = TypeExpr.anything then "_AnyMeta"
  else "type"

def aliasSort (c : ClassHead) (ofPlain : String) : String :=
  if c = TypeExpr.callable then "_CallableGenericAlias" else ofPlain

def sort : Meaning → String
  | .type (.bare c) => if TypeExpr.isForm c then "_SpecialForm" else classSort c
  | .type (.closed c _) => aliasSort c (if TypeExpr.isPlainAlias c then "types.GenericAlias" else "_GenericAlias")
  | .type (.written _ c _) => aliasSort c "_GenericAlias"
  | .type (.variable ..) => "TypeVar"
  | .type (.union _) => "_UnionGenericAlias"
  | .type (.choice _) => "types.UnionType"
  | .type (.forward _) => "ForwardRef"
  | .type (.key v) => TypeExpr.valueSort v
  | .type (.thing x) => x.sort
  | .generic .none c _ => classSort c
  | .generic (some _) c _ => if c = TypeExpr.callable then "_CallableType" else "_SpecialGenericAlias"
  | .form _ => "_SpecialForm"
  | .items kind _ => collectionSort kind
  | .dictionary _ _ => "dict"
  | .bytes _ => "bytes"
  | .iterator sort _ _ => sort
  | .slice _ => "slice"
  | .function _ => functionSort
  | .services => "ServiceCollection"
  | .method _ => "method"
  | .bound _ _ => builtinSort

end Meaning

end Wiring.Container
