import Wiring.Container.Items
import Wiring.Script.Expression.Reading

/-!
How types are formed from others: generics and forms that are closed over arguments, and types with bars between
them. What is no type among the arguments is refused as soon as the type is formed.
-/

namespace Wiring.Container.Formation

def expressionOf? (text : String) : Option Script.Expression :=
  Script.Expression.ofText? (if text.toList.head? = some '*' then "(" ++ text ++ ",)[0]" else text)

def hasNull (s : String) : Bool :=
  s.toList.any fun c => c.toNat = 0

def nullInText : Raised where
  kind := "ValueError"
  message := "source code string cannot contain null bytes"

def forward (text : String) : Except Raised TypeExpr :=
  if text = "" then .error { kind := "IndexError", message := "string index out of range" }
  else if hasNull text then .error nullInText
  else if (expressionOf? text).isSome then .ok (.forward text)
  else .error {
    kind := "SyntaxError"
    message := "Forward reference must be an expression -- got " ++ Text.quoted text }

def convert : TypeExpr → Except Raised TypeExpr
  | .key .null => .ok TypeExpr.nothing
  | .key (.string text) => forward text
  | t => .ok t

def genericBases : List ClassHead :=
  [TypeExpr.generic, TypeExpr.formHead "Protocol"]

def placeForms : List ClassHead :=
  ["ClassVar", "Final"].map TypeExpr.formHead

def plainForms : List ClassHead :=
  ["LiteralString", "Never", "NoReturn", "Self", "TypeAlias"].map TypeExpr.formHead

def check (message : String) (allowsPlaces : Bool) (t : TypeExpr) : Except Raised TypeExpr := do
  let t ← convert t
  match t with
  | .closed c _ =>
    if c ∈ genericBases ∨ !allowsPlaces ∧ c ∈ placeForms then
      throw (.type (t.keyText ++ " is not valid as type argument"))
    else return t
  | .bare c =>
    if c ∈ plainForms ∨ allowsPlaces ∧ c ∈ placeForms then return t
    else if TypeExpr.isForm c ∨ c ∈ genericBases then
      throw (.type ("Plain " ++ t.keyText ++ " is not valid as type argument"))
    else return t
  | .thing x =>
    if x.sort = Meaning.collectionSort .tuple then
      throw (.type (message ++ " Got " ++ String.ofList (x.text.toList.take 100) ++ "."))
    else return t
  | t => return t

def checkHashable (ts : List TypeExpr) : Except Raised Unit :=
  match TypeExpr.anyUnkeyable? ts with
  | some sort => .error (.type ("unhashable type: '" ++ sort ++ "'"))
  | none => .ok ()

def union (ts : List TypeExpr) : Except Raised TypeExpr := do
  if ts = [] then throw (.type "Cannot take a Union of no types.")
  let ts ← ts.mapM (check "Union[arg, ...]: each arg must be a type." false)
  checkHashable ts
  return .oneOf ts

def orNothing (t : TypeExpr) : Except Raised TypeExpr := do
  union [← check "typing.Optional requires a single type." false t, TypeExpr.nothing]

def checkCount (shown : String) (actual expected : Nat) : Except Raised Unit :=
  if expected = 0 then .error (.type (shown ++ " is not a generic class"))
  else if actual = expected then .ok ()
  else .error (.type ("Too " ++ (if expected < actual then "many" else "few") ++ " arguments for " ++ shown ++
    "; actual " ++ toString actual ++ ", expected " ++ toString expected))

def close (c : ClassHead) (arguments : List TypeExpr) : Except Raised TypeExpr := do
  let arguments ← arguments.mapM convert
  checkCount (TypeExpr.bare c).keyText arguments.length c.parameters.length
  return .closed c arguments

def argumentMessage : String :=
  "Parameters to generic types must be types."

def closeWritten (spelling : String) (c : ClassHead) (count : Nat) (arguments : List TypeExpr) :
    Except Raised TypeExpr := do
  let arguments ← arguments.mapM (check argumentMessage false)
  checkCount (TypeExpr.written spelling c []).keyText arguments.length count
  return .written spelling c arguments

def closeTuple (spelling : String) (c : ClassHead) (arguments : List TypeExpr) : Except Raised TypeExpr := do
  if 2 ≤ arguments.length ∧ arguments.getLast? = some TypeExpr.ellipsis then
    let arguments ← arguments.dropLast.mapM (check "Tuple[t, ...]: t must be a type." false)
    return .written spelling c (arguments ++ [TypeExpr.ellipsis])
  else
    return .written spelling c (← arguments.mapM (check "Tuple[t0, t1, ...]: each t must be a type." false))

def listOf (t : TypeExpr) : Except Raised TypeExpr :=
  closeWritten "List" (.builtin "list") 1 [t]

def callableUse : Raised :=
  .type "Callable must be used as Callable[[arg, ...], result]."

def writtenCallable (spelling : String) (index : Meaning) : Except Raised TypeExpr := do
  match index.arguments with
  | [parameters, result] =>
    let result ← check "Callable[args, result]: result must be a type." false result.asType
    let parameters ← match parameters with
      | .items .list ms | .items .tuple ms => (ms.map Meaning.asType).mapM convert
      | m => (fun t => [t]) <$> convert m.asType
    return .written spelling TypeExpr.callable (parameters ++ [result])
  | _ => throw callableUse

def plainCallable (index : Meaning) : Except Raised TypeExpr := do
  match index.arguments with
  | [.items .list ms, result] | [.items .tuple ms, result] =>
    return .closed TypeExpr.callable (ms.map Meaning.asType ++ [result.asType])
  | [m, result] =>
    if TypeExpr.standsForParameters [m.asType] then return .closed TypeExpr.callable [m.asType, result.asType]
    else throw (.type ("Expected a list of types, an ellipsis, ParamSpec, or Concatenate. Got " ++ m.text))
  | _ => throw callableUse

def closeForm (name : String) (index : Meaning) : Except Raised TypeExpr := do
  let head := TypeExpr.formHead name
  let shown := (TypeExpr.bare head).keyText
  let arguments := index.arguments.map Meaning.asType
  let single := check (shown ++ " accepts only single type.")
  match name with
  | "Annotated" =>
    match arguments with
    | t :: _ :: _ => check "Annotated[t, ...]: t must be a type." true t
    | _ => throw (.type "Annotated[...] should be used with at least two arguments (a type and an annotation).")
  | "Union" => union arguments
  | "Optional" => orNothing index.asType
  | "Literal" => return .closed head (TypeExpr.literals arguments)
  | "Concatenate" =>
    if arguments = [] then throw (.type "Cannot take a Concatenate of no types.")
    if arguments.getLast? ≠ some TypeExpr.ellipsis then
      throw (.type "The last parameter to Concatenate should be a ParamSpec variable or ellipsis.")
    let first ← arguments.dropLast.mapM (check "Concatenate[arg, ...]: each arg must be a type." false)
    return .closed head (first ++ [TypeExpr.ellipsis])
  | "NotRequired" | "Required" => single true index.asType
  | "ClassVar" | "Final" | "TypeGuard" | "Unpack" => return .closed head [← single false index.asType]
  | _ => throw (.type (shown ++ " is not subscriptable"))

def isVariable : TypeExpr → Bool
  | .variable .. => true
  | _ => false

def closeBase (c : ClassHead) (arguments : List TypeExpr) : Except Raised TypeExpr := do
  if arguments = [] then throw (.type ("Parameter list to " ++ c.name ++ "[...] cannot be empty"))
  let arguments ← arguments.mapM convert
  if !arguments.all isVariable then
    throw (.type ("Parameters to " ++ c.name ++
      "[...] must all be type variables or parameter specification variables."))
  if !arguments.Nodup then throw (.type ("Parameters to " ++ c.name ++ "[...] must all be unique"))
  return .closed c arguments

mutual

def typeVariables : TypeExpr → List TypeExpr
  | .variable s n => [.variable s n]
  | .closed _ ts | .written _ _ ts | .union ts | .choice ts => typeVariablesOfAll ts
  | _ => []

def typeVariablesOfAll : List TypeExpr → List TypeExpr
  | [] => []
  | t :: ts => typeVariables t ++ typeVariablesOfAll ts

end

def variableName : TypeExpr → String
  | .variable _ n => n
  | _ => ""

def reclose (t : TypeExpr) (arguments : List TypeExpr) : Except Raised TypeExpr := do
  let vs := (typeVariables t).eraseDups
  checkCount t.keyText arguments.length vs.length
  let arguments ← arguments.mapM (check argumentMessage false)
  return t.substitute ((vs.map variableName).zip arguments)

def checkClosable (c : ClassHead) (arguments : List TypeExpr) : Except Raised Unit := do
  if c ∈ ["ClassVar", "Final", "TypeGuard", "Unpack"].map TypeExpr.formHead then
    let given := "(" ++ ", ".intercalate (arguments.map TypeExpr.keyText) ++ ",)"
    throw (.type (c.text ++ " accepts only single type. Got " ++ String.ofList (given.toList.take 100) ++ "."))
  if c ∈ genericBases then discard (closeBase c arguments)

mutual

def checkSubstitution (m : List (String × TypeExpr)) : TypeExpr → Except Raised Unit
  -- Members between bars stay as they are, those of a union have to be told apart, and everything else has to take
  -- its arguments anew.
  | .closed c as => do
    checkSubstitutions m as
    if TypeExpr.substituteAll m as ≠ as then checkClosable c (TypeExpr.substituteAll m as)
  | .written _ _ as => checkSubstitutions m as
  | .union ms => do
    checkSubstitutions m ms
    if TypeExpr.substituteAll m ms ≠ ms then checkHashable (TypeExpr.substituteAll m ms)
  | .choice ms => do
    checkSubstitutions m ms
    if TypeExpr.substituteAll m ms ≠ ms then throw (.type "type 'types.UnionType' is not subscriptable")
  | _ => return

def checkSubstitutions (m : List (String × TypeExpr)) : List TypeExpr → Except Raised Unit
  | [] => return
  | a :: as => do
    checkSubstitution m a
    checkSubstitutions m as

end

def substitute (m : List (String × TypeExpr)) (t : TypeExpr) : Except Raised TypeExpr := do
  checkSubstitution m t
  let substituted := t.substitute m
  if substituted ≠ t then discard (substituted.forwardNames.mapM forward)
  return substituted

def noIndex (m : Meaning) : Raised :=
  .type ("'" ++ m.sort ++ "' object is not subscriptable")

def subscript (isGeneric : ClassHead → Bool) (m index : Meaning) : Except Raised Meaning := do
  let arguments := index.arguments.map Meaning.asType
  match m with
  | .generic none c _ =>
    if c = TypeExpr.callable then .type <$> plainCallable index
    else return .type (.closed c arguments)
  | .generic (some spelling) c none => .type <$> closeTuple spelling c arguments
  | .generic (some spelling) c (some count) =>
    if c = TypeExpr.callable then .type <$> writtenCallable spelling index
    else .type <$> closeWritten spelling c count arguments
  | .form name => .type <$> closeForm name index
  | .items .set _ => throw (noIndex m)
  | .items kind ms => Indexing.ofItems kind ms index
  | .type (.key (.string s)) => Indexing.ofText s index
  | .type (.bare c) =>
    if c ∈ genericBases then .type <$> closeBase c arguments
    else if c.parameters ≠ [] ∨ isGeneric c then .type <$> close c arguments
    else throw (.type ("type '" ++ c.name ++ "' is not subscriptable"))
  | .type t@(.closed c _) =>
    if c ∈ genericBases then throw (.type ("Cannot subscript already-subscripted " ++ t.keyText))
    else .type <$> reclose t arguments
  | .type t@(.written ..) | .type t@(.union _) | .type t@(.choice _) => .type <$> reclose t arguments
  | .dictionary keys values => Items.under keys values index
  | .bytes content => Indexing.ofBytes content index
  | .iterator "range" _ (.ok ms) => Indexing.itemAt "range object" ms index
  | m => throw (noIndex m)

def isPlainMember : TypeExpr → Bool
  | .key .null | .choice _ => true
  | .bare c => !TypeExpr.isForm c
  | .closed c _ => TypeExpr.isPlainAlias c
  | _ => false

def isFormMember : TypeExpr → Bool
  | .written .. | .variable .. | .union _ | .forward _ => true
  | .bare c => TypeExpr.isForm c
  | .closed c _ => !TypeExpr.isPlainAlias c
  | _ => false

def choice? (a b : TypeExpr) : Option (Except Raised TypeExpr) :=
  if isPlainMember a ∧ isPlainMember b ∧ ¬(a = .key .null ∧ b = .key .null) then
    some (.ok (TypeExpr.choiceOf (TypeExpr.withNothing [a, b])))
  else if isFormMember a ∨ isFormMember b then some (union [a, b])
  else none

end Wiring.Container.Formation
