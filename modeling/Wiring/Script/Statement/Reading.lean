import Wiring.Script.Expression.Reading

/-!
How statements are read. A body is a block of lines further in, or stands on the line that it belongs to.
-/

namespace Wiring.Script.Statement

open Script.Reading Expression

def modifyingMarks : List String :=
  ["+=", "-=", "*=", "/=", "//=", "%=", "@=", "&=", "|=", "^=", ">>=", "<<=", "**="]

def isSingleTarget (e : Expression) : Bool :=
  match e with
  | .collection _ _ => false
  | e => isTarget e

def isLineEnd : Token → Bool
  | .lineEnd => true
  | _ => false

def isIndent : Token → Bool
  | .indent => true
  | _ => false

def isBroken : Token → Bool
  | .broken _ => true
  | _ => false

def isDedent : Token → Bool
  | .dedent => true
  | _ => false

def endsSimple : Token → Bool
  | .lineEnd => true
  | t => isMark ";" t

def dotted : Nat → Reading String
  | 0 => refuse
  | n + 1 => do
    let s ← takesName
    if ← takesMark "." then return s ++ "." ++ (← dotted n) else return s

def dots : Nat → Reading Nat
  | 0 => return 0
  | n + 1 => do
    if ← takesMark "." then return 1 + (← dots n)
    else if ← takesMark "..." then return 3 + (← dots n)
    else return 0

def otherName : Reading (Option String) := do
  if ← takesWord "as" then some <$> takesName else return none

def boundName (s : String) : Reading String :=
  if s = unassignable then refuse else return s

def importedNames : Nat → (isEnclosed : Bool) → Reading (List (String × String))
  | 0, _ => refuse
  | n + 1, isEnclosed => do
    let s ← takesName
    let t ← boundName ((← otherName).getD s)
    if ← takesMark "," then
      if isEnclosed && (← nextIsMark ")") then return [(s, t)]
      return (s, t) :: (← importedNames n isEnclosed)
    else return [(s, t)]

def importedModules : Nat → Reading (List (String × Option String))
  | 0 => refuse
  | n + 1 => do
    let s ← dotted n
    let t ← otherName
    if ← takesMark "," then return (s, t) :: (← importedModules n) else return [(s, t)]

def importFromStatement (n : Nat) : Reading Statement := do
  let level ← dots n
  let module ← if level ≠ 0 && (← nextIsWord "import") then pure "" else dotted n
  expectWord "import"
  if ← takesMark "*" then return .importAll level module
  if ← takesMark "(" then
    let names ← importedNames n true
    expectMark ")"
    return .importFrom level module names
  else return .importFrom level module (← importedNames n false)

def names : Nat → Reading (List String)
  | 0 => refuse
  | n + 1 => do
    let s ← takesName
    if ← takesMark "," then return s :: (← names n) else return [s]

def value (n : Nat) : Reading Expression := do
  if ← nextIsWord "yield" then yieldExpression n else expressions n

def assigned : Nat → List Expression → Reading Statement
  | 0, _ => refuse
  | n + 1, targets => do
    let e ← value n
    if ← takesMark "=" then
      if isTarget e then assigned n (targets ++ [e]) else refuse
    else return .assign targets e

def ofExpression (n : Nat) : Reading Statement := do
  let startsWithName ← isNext fun
    | .name _ => true
    | _ => false
  let e ← value n
  if ← takesMark "=" then if isTarget e then assigned n [e] else refuse
  else if ← takesMark ":" then
    if !isSingleTarget e then refuse
    let hint ← expression n
    let given ← if ← takesMark "=" then some <$> value n else pure none
    return .annotate e startsWithName hint given
  else match ← takesOneOf modifyingMarks with
    | some m => if isSingleTarget e then return .modify e m (← value n) else refuse
    | none => return .evaluate e

def optionalExpressions (n : Nat) : Reading (Option Expression) := do
  if ← isNext endsSimple then return none else some <$> expressions n

def deleted : Nat → Reading (List Expression)
  | 0 => refuse
  | n + 1 => do
    let e ← target n
    if !isTarget e then refuse
    if (← takesMark ",") && !(← isNext endsSimple) then return e :: (← deleted n) else return [e]

def simple (n : Nat) : Reading Statement := do
  match ← next? with
  | some (.keyword "pass") =>
    advance
    return .pass
  | some (.keyword "break") =>
    advance
    return .leave "break"
  | some (.keyword "continue") =>
    advance
    return .leave "continue"
  | some (.keyword "return") =>
    advance
    return .return (← optionalExpressions n)
  | some (.keyword "raise") =>
    advance
    if ← isNext endsSimple then return .fail none none
    let e ← expression n
    if ← takesWord "from" then return .fail (some e) (some (← expression n)) else return .fail (some e) none
  | some (.keyword "del") =>
    advance
    return .delete (← deleted n)
  | some (.keyword "assert") =>
    advance
    let e ← expression n
    if ← takesMark "," then return .ensure e (some (← expression n)) else return .ensure e none
  | some (.keyword "global") =>
    advance
    return .declare "global" (← names n)
  | some (.keyword "nonlocal") =>
    advance
    return .declare "nonlocal" (← names n)
  | some (.keyword "import") =>
    advance
    return .import (← importedModules n)
  | some (.keyword "from") =>
    advance
    importFromStatement n
  | _ => ofExpression n

def simpleLine : Nat → Reading (List Statement)
  | 0 => refuse
  | n + 1 => do
    let s ← simple n
    if ← takesMark ";" then
      if ← takes isLineEnd then return [s] else return s :: (← simpleLine n)
    else
      expect isLineEnd
      return [s]

def compoundWords : List String :=
  ["if", "while", "for", "def", "class", "try", "with"]

mutual

def statement : Nat → Reading (List Statement)
  | 0 => refuse
  | n + 1 => do
    match ← next? with
    | some (.keyword s) => if s ∈ compoundWords then return [← compound n s] else simpleLine n
    | some (.mark "@") => return [← decorated n []]
    | _ => simpleLine n

def statements : Nat → Reading (List Statement)
  | 0 => refuse
  | n + 1 => do
    if (← next?).isNone || (← isNext isDedent) then return []
    let ss ← statement n
    return ss ++ (← statements n)

def body : Nat → Reading (List Statement)
  | 0 => refuse
  | n + 1 => do
    expectMark ":"
    if ← takes isLineEnd then
      if ← isNext isBroken then refuse
      if !(← takes isIndent) then throw .misindented
      let ss ← statements n
      expect isDedent
      return ss
    else simpleLine n

def compound : Nat → String → Reading Statement
  | 0, _ => refuse
  | n + 1, word => do
    advance
    match word with
    | "if" => conditionally n
    | "while" =>
      let e ← bindingExpression n
      let ss ← body n
      return .repeat e ss (← otherwise n)
    | "for" =>
      let t ← targets n
      if !isTarget t then refuse
      expectWord "in"
      let e ← expressions n
      let ss ← body n
      return .run t e ss (← otherwise n)
    | "def" => definition n []
    | "class" => classDefinition n []
    | "try" => attempted n
    | _ =>
      let items ← withItems n
      return .within items (← body n)

def conditionally : Nat → Reading Statement
  | 0 => refuse
  | n + 1 => do
    let e ← bindingExpression n
    let yes ← body n
    if ← takesWord "elif" then return .choose e yes [← conditionally n]
    else return .choose e yes (← otherwise n)

def otherwise : Nat → Reading (List Statement)
  | 0 => refuse
  | n + 1 => do
    if ← takesWord "else" then body n else return []

def definition : Nat → List Expression → Reading Statement
  | 0, _ => refuse
  | n + 1, decorators => do
    let s ← takesName
    if s = unassignable then refuse
    expectMark "("
    let ps ← parameters n true ")"
    expectMark ")"
    let result ← if ← takesMark "->" then some <$> expression n else pure none
    return .define s ps result decorators (← body n)

def classDefinition : Nat → List Expression → Reading Statement
  | 0, _ => refuse
  | n + 1, decorators => do
    let s ← takesName
    if s = unassignable then refuse
    let as ← if ← takesMark "(" then do
        let as ← arguments n
        expectMark ")"
        pure as
      else pure []
    return .defineClass s as decorators (← body n)

def decorated : Nat → List Expression → Reading Statement
  | 0, _ => refuse
  | n + 1, decorators => do
    if ← takesMark "@" then
      let e ← bindingExpression n
      expect isLineEnd
      decorated n (decorators ++ [e])
    else if ← takesWord "def" then definition n decorators
    else if ← takesWord "class" then classDefinition n decorators
    else refuse

def attempted : Nat → Reading Statement
  | 0 => refuse
  | n + 1 => do
    let ss ← body n
    let hs ← handlers n
    let no ← if hs.isEmpty then pure [] else otherwise n
    let last ← if ← takesWord "finally" then body n else pure []
    if hs.isEmpty && last.isEmpty then refuse else return .attempt ss hs no last

def handlers : Nat → Reading (List (Option Expression × Option String × List Statement))
  | 0 => refuse
  | n + 1 => do
    if ← takesWord "except" then
      let e ← if ← nextIsMark ":" then pure none else some <$> expression n
      let s ← if e.isSome then otherName else pure none
      let ss ← body n
      return (e, s, ss) :: (← handlers n)
    else return []

def withItems : Nat → Reading (List (Expression × Option Expression))
  | 0 => refuse
  | n + 1 => do
    let e ← expression n
    let t ← if ← takesWord "as" then some <$> target n else pure none
    if !(t.all isTarget) then refuse
    if ← takesMark "," then return (e, t) :: (← withItems n) else return [(e, t)]

end

/-! Where statements can stand. -/

structure Surroundings where
  inFunction : Bool := false
  inLoop : Bool := false
  inClass : Bool := false

mutual

def isPlaced (p : Surroundings) : Statement → Bool
  | .leave _ => p.inLoop
  | .evaluate (.yielded _) | .assign _ (.yielded _) => p.inFunction
  | .return _ => p.inFunction
  | .importAll _ _ => !p.inFunction && !p.inClass
  | .declare word _ => word = "global" || p.inFunction
  | .define _ _ _ _ body => arePlaced { inFunction := true } body
  | .defineClass _ _ _ body => arePlaced { inClass := true } body
  | .choose _ yes no => arePlaced p yes && arePlaced p no
  | .repeat _ body otherwise | .run _ _ body otherwise =>
    arePlaced { p with inLoop := true } body && arePlaced p otherwise
  | .attempt body handlers otherwise last =>
    arePlaced p body && handlersPlaced p handlers && arePlaced p otherwise && arePlaced p last
  | .within _ body => arePlaced p body
  | _ => true

def arePlaced (p : Surroundings) : List Statement → Bool
  | [] => true
  | s :: r => isPlaced p s && arePlaced p r

def handlersPlaced (p : Surroundings) : List (Option Expression × Option String × List Statement) → Bool
  | [] => true
  | (_, _, body) :: r => arePlaced p body && handlersPlaced p r

end

def ofText (text : String) : Except Fault (List Statement) :=
  let ts := tokens text
  match statements (depthFor ts) ts with
  | .error f => .error f
  | .ok (_, t :: _) => .error (faultAt (some t))
  | .ok (ss, []) => if arePlaced {} ss then .ok ss else .error .malformed

end Wiring.Script.Statement
