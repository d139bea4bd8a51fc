import Wiring.Container.Evaluation
import Wiring.Script.Statement.Reading

/-!
How scripts run, statement by statement. The number in front bounds how deep statements, expressions and calls nest.
Classes get initializers by assignment, and functions keep their bodies until they are called.
-/

namespace Wiring.Container.Executing

open Script
open Calling (Arguments)

def tooDeep : Raised where
  kind := "RecursionError"
  message := "maximum recursion depth exceeded"

def isHome (t : ClassTable) (module : String) : Bool :=
  -- The classes that there are come before everything else of their modules.
  t.any fun k => k.head.module = module && (ClassTable.predefined.find? k.head).isNone

def unknownModule (module : String) : Raised where
  kind := "ModuleNotFoundError"
  message := "No module named " ++ Text.quoted module

def unknownImport (module name : String) : Raised where
  kind := "ImportError"
  message := "cannot import name " ++ Text.quoted name ++ " from " ++ Text.quoted module

def beyondTop : Raised where
  kind := "ImportError"
  message := "attempted relative import beyond top-level package"

def isModule (t : ClassTable) (module : String) : Bool :=
  isHome t module || Library.hasModule module

def imported (t : ClassTable) (module name : String) : Except Raised Meaning :=
  -- A class stands under its own name, a module inside of another under its last.
  let inner := module ++ "." ++ name
  if isHome t module then
    match List.find? (fun k => k.head.module = module && k.head.name = name) t with
    | some k => .ok (.type (.bare k.head))
    | none =>
      if name = "__name__" then .ok (.ofText module)
      else if name ∈ ["__doc__", "__loader__", "__package__", "__spec__"] then .ok .none
      else if isModule t inner then .ok (.ofModule inner)
      else .error (unknownImport module name)
  else if !Library.hasModule module then .error (unknownModule module)
  else
    match Library.find? module name with
    | some m => .ok m
    | none => if isModule t inner then .ok (.ofModule inner) else .error (unknownImport module name)

def moduleFrom (unit : String) (level : Nat) (module : String) : Except Raised String :=
  let above := Text.pieces '.' unit.toList
  if level = 0 then .ok module
  else if above.length ≤ level then .error beyondTop
  else
    let rest := if module = "" then [] else [module.toList]
    .ok (".".intercalate ((above.take (above.length - level) ++ rest).map String.ofList))

def isFixed (c : ClassHead) : Bool :=
  c.module = ClassHead.builtinModule || c ∈ Library.fixedClasses

def noNewAttribute (m : Meaning) (name : String) : Raised :=
  .member ("'" ++ m.sort ++ "' object has no attribute '" ++ name ++ "'")

def setMember (target : Meaning) (name : String) (value : Meaning) : Executing Unit := do
  match target with
  | .type (.bare c) | .generic none c _ =>
    if isFixed c then
      raise (.type ("cannot set '" ++ name ++ "' attribute of immutable type '" ++ c.text ++ "'"))
    match value with
    | .function f =>
      if name = "__init__" then modify fun s => { s with given := s.given ++ [(c, f)] }
    | _ => return ()
  | .type (.closed c _) => if TypeExpr.isPlainAlias c then raise (noNewAttribute target name)
  | .type (.key _) | .type (.choice _) | .form _ | .items .. => raise (noNewAttribute target name)
  | .type (.thing x) => if x.sort = "builtin_function_or_method" then raise (noNewAttribute target name)
  | _ => return ()

def withOwn {α : Type} (names : List String) (x : Executing α) : Executing α := do
  let before ← get
  let a ← x
  let restored (now earlier : List (String × Meaning)) : List (String × Meaning) :=
    now.filter (·.1 ∉ names) ++ earlier.filter (·.1 ∈ names)
  modify fun s => { s with
    locals := s.locals.map fun now => restored now (before.locals.getD [])
    globals := if before.locals.isNone then restored s.globals before.globals else s.globals }
  return a

def raisedOf : Meaning → Raised
  | .type (.bare c) => { kind := c.name, message := "" }
  | .type (.thing x) => { kind := x.sort, message := x.name.getD "" }
  | _ => .type "exceptions must derive from BaseException"

def later {α : Type} (x : Executing α) : Executing (Except Raised α) :=
  fun s => .ok ((x.run s).map Prod.fst, s)

inductive Needed where
  | text (s : String)
  | module (name : String)
  | each (f : Meaning) (rows : List (List Meaning))
  | those (f : Meaning) (ms : List Meaning)

def rows? (ms : List Meaning) : Option (List (List Meaning)) :=
  ms.mapM fun m => (Items.ofMeaning m).toOption

def needed? (m : Meaning) (arguments : Arguments) : Option Needed :=
  match m, arguments.1 with
  | .type (.thing x), .type (.key (.string s)) :: _ =>
    if x.sort ≠ Meaning.builtinSort then none
    else if x.name = some "eval" then some (.text (String.ofList (s.toList.dropWhile Text.isLineBlank)))
    else if x.name = some "__import__" then some (.module s)
    else none
  | .type (.bare c), f :: ms =>
    if c = .builtin "map" then (rows? ms).map fun rows => .each f (Calling.columns rows)
    else if c = .builtin "filter" then (rows? ms).map fun rows =>
      let ms := rows.flatten
      match f with
      | .type (.key .null) => .those (.type (.bare (.builtin "bool"))) ms
      | f => .those f ms
    else none
  | _, _ => none

mutual

def evaluate : Nat → Expression → Executing Meaning
  | 0, _ => raise tooDeep
  | n + 1, e => do
    match e with
    | .name s => meaning s
    | .constant s => return ofConstant s
    | .number x => return ofNumber x
    | .text s => return .ofText s
    | .bytes s => return .bytes s
    | .template parts => return .ofText (String.join (← parts.mapM (templatePart n)))
    | .attribute e name =>
      let m ← evaluate n e
      ofExcept (Operation.member (← get).table m name)
    | .subscript e i =>
      let m ← evaluate n e
      let i ← evaluate n i
      let t := (← get).table
      ofExcept (Formation.subscript (fun c => t.derives c TypeExpr.generic) m i)
    | .slice a b c =>
      return .slice (← [a, b, c].mapM fun e => do return (← evaluateOptional n e).getD .none)
    | .call e as =>
      let m ← evaluate n e
      let placed ← as.mapM (placedArgument n)
      let named ← as.mapM (namedArgument n)
      call n m (placed.flatten, named.flatten)
    | .prefixed operator e => do ofExcept (Operation.prefixed operator (← evaluate n e))
    | .joined "or" a b =>
      let m ← evaluate n a
      if m.isTrue then return m else evaluate n b
    | .joined "and" a b =>
      let m ← evaluate n a
      if m.isTrue then evaluate n b else return m
    | .joined operator a b =>
      let m ← evaluate n a
      ofExcept (Operation.join operator m (← evaluate n b))
    | .compared e others => compareAll n (← evaluate n e) others
    | .conditional condition yes no =>
      let m ← evaluate n condition
      if m.isTrue then evaluate n yes else evaluate n no
    | .function ps body => return .function (← define n "<lambda>" ps [.return (some body)])
    | .collection .set es =>
      let ms ← es.mapM (setItems n)
      ofExcept (Items.asSet ms.flatten)
    | .collection kind es => return .items kind (← es.mapM (items n)).flatten
    | .dictionary pairs =>
      let entries ← pairs.mapM fun
        | (some k, v) => do
          let k ← evaluate n k
          return [(k, ← evaluate n v)]
        | (none, v) => do
          match ← evaluate n v with
          | .dictionary ks vs => return ks.zip vs
          | m => raise (.type ("'" ++ m.sort ++ "' object is not a mapping"))
      ofExcept (Items.dictionary entries.flatten)
    | .spread e => return .items .tuple (← items n (.spread e))
    | .bound s e =>
      let m ← evaluate n e
      bindName s m
      return m
    | .comprehension "(" es clauses =>
      match clauses.head? with
      | some (_, e, _) => discard (ofExcept (Items.ofMeaning (← evaluate n e)))
      | none => pure ()
      let names := clauses.flatMap fun c => c.1.targetNames
      let items ← later (withOwn names (do return (← comprehend n es clauses).filterMap List.head?))
      return .iterator "generator" "<generator object <genexpr>>" items
    | .comprehension opening es clauses =>
      let names := clauses.flatMap fun c => c.1.targetNames
      let results ← withOwn names (comprehend n es clauses)
      match opening, es with
      | "[", _ => return .items .list (results.filterMap List.head?)
      | _, [_, _] => ofExcept (Items.dictionary (results.filterMap fun r => do return (← r[0]?, ← r[1]?)))
      | _, _ => ofExcept (Items.asSet (results.filterMap List.head?))
    | .yielded _ => return .none

def templatePart : Nat → Expression × Option Char × Option Expression → Executing String
  | 0, _ => raise tooDeep
  | n + 1, (e, conversion, layout) => do
    let m := Calling.converted (← evaluate n e) conversion
    let layout ← evaluateOptional n layout
    ofExcept (Calling.layOut m ((layout.map Meaning.shown).getD "").toList)

def items : Nat → Expression → Executing (List Meaning)
  | 0, _ => raise tooDeep
  | n + 1, .spread e => do ofExcept (Items.spread (← evaluate n e))
  | n + 1, e => do return [← evaluate n e]

def setItems : Nat → Expression → Executing (List Meaning)
  | 0, _ => raise tooDeep
  | n + 1, .spread e => do ofExcept (Items.ofMeaning (← evaluate n e))
  | n + 1, e => do return [← evaluate n e]

def comprehend : Nat → List Expression → List (Expression × Expression × List Expression) →
    Executing (List (List Meaning))
  | 0, _, _ => raise tooDeep
  | n + 1, es, [] => do return [← es.mapM (evaluate n)]
  | n + 1, es, (target, e, conditions) :: r => do
    let ms ← ofExcept (Items.ofMeaning (← evaluate n e))
    let results ← ms.mapM fun m => do
      assign n m target
      if ← allHold n conditions then comprehend n es r else return []
    return results.flatten

def allHold : Nat → List Expression → Executing Bool
  | 0, _ => raise tooDeep
  | _ + 1, [] => return true
  | n + 1, e :: r => do
    let m ← evaluate n e
    if m.isTrue then allHold n r else return false

def placedArgument : Nat → ArgumentKind × Expression → Executing (List Meaning)
  | 0, _ => raise tooDeep
  | n + 1, (.placed, e) => do return [← evaluate n e]
  | n + 1, (.spread, e) => do ofExcept (Items.ofMeaning (← evaluate n e))
  | _ + 1, _ => return []

def namedArgument : Nat → ArgumentKind × Expression → Executing (List (String × Meaning))
  | 0, _ => raise tooDeep
  | n + 1, (.named s, e) => do return [(s, ← evaluate n e)]
  | n + 1, (.spreadNamed, e) => do
    match ← evaluate n e with
    | .dictionary ks vs => return (ks.map Meaning.shown).zip vs
    | m => raise (.type ("argument after ** must be a mapping, not " ++ m.sort))
  | _ + 1, _ => return []

def compareAll : Nat → Meaning → List (String × Expression) → Executing Meaning
  | 0, _, _ => raise tooDeep
  | _ + 1, _, [] => return .ofBool true
  | n + 1, a, (operator, e) :: r => do
    let b ← evaluate n e
    let holds ← ofExcept (Operation.compare operator a b)
    if holds then compareAll n b r else return .ofBool false

def define : Nat → String → List (Parameter Expression) → List Statement → Executing Function
  | 0, _, _, _ => raise tooDeep
  | n + 1, name, ps, body => do
    let defaults ← ps.mapM fun p => evaluateOptional n p.default
    let hints ← ps.mapM fun p => evaluateOptional n p.hint
    let parameters := (ps.zip (defaults.zip hints)).map fun (p, default, hint) =>
      ({ name := p.name, kind := p.kind, hint := hint.map Meaning.asType, default := default.map Meaning.asType } :
        Parameter TypeExpr)
    return { name, parameters, body }

def evaluateOptional : Nat → Option Expression → Executing (Option Meaning)
  | 0, _ => raise tooDeep
  | n + 1, some e => some <$> evaluate n e
  | _ + 1, none => return none

def call : Nat → Meaning → Arguments → Executing Meaning
  | 0, _, _ => raise tooDeep
  | n + 1, .function f, arguments => do
    let values ← ofExcept (valuesOf f arguments)
    within values (do return (← executeAll n f.body).getD .none)
  | n + 1, m, arguments => do
    match needed? m arguments with
    | some (.text s) =>
      match Expression.ofText? s with
      | some e => evaluate n e
      | none => raise { kind := "SyntaxError", message := "invalid syntax (<string>, line 1)" }
    | some (.module s) =>
      if isModule (← get).table s then
        return .ofModule (String.ofList (s.toList.takeWhile (· ≠ '.')))
      else raise (unknownModule s)
    | some (.each f rows) => .iterator "map" (Calling.object "map") <$> later (rows.mapM fun ms => call n f (ms, []))
    | some (.those f ms) =>
      .iterator "filter" (Calling.object "filter") <$> later (ms.filterM fun m => do
        return (← call n f ([m], [])).isTrue)
    | none => callOther m arguments

def assign : Nat → Meaning → Expression → Executing Unit
  | 0, _, _ => raise tooDeep
  | n + 1, m, target => do
    match target with
    | .name s => bindName s m
    | .attribute e name => setMember (← evaluate n e) name m
    | .subscript e i =>
      let m ← evaluate n e
      discard (evaluate n i)
      raise (.type ("'" ++ m.sort ++ "' object does not support item assignment"))
    | .collection _ targets =>
      match m with
      | .items _ ms =>
        if ms.length = targets.length then discard ((ms.zip targets).mapM fun p => assign n p.1 p.2)
        else raise {
          kind := "ValueError"
          message :=
            if ms.length < targets.length then
              "not enough values to unpack (expected " ++ toString targets.length ++ ", got " ++
                toString ms.length ++ ")"
            else "too many values to unpack (expected " ++ toString targets.length ++ ")" }
      | m => raise (.type ("cannot unpack non-iterable " ++ m.sort ++ " object"))
    | .spread e => assign n m e
    | _ => return ()

def execute : Nat → Statement → Executing (Option Meaning)
  | 0, _ => raise tooDeep
  | n + 1, s => do
    match s with
    | .evaluate e =>
      discard (evaluate n e)
      return none
    | .assign targets e =>
      let m ← evaluate n e
      for t in targets do assign n m t
      return none
    | .annotate target isName hint e =>
      let m ← evaluateOptional n e
      match m with
      | some m => assign n m target
      | none => if !isName then discard (evaluate n target)
      if (← get).locals.isNone then discard (evaluate n hint)
      return none
    | .modify target operator e =>
      let m ← evaluate n target
      let m ← ofExcept (Operation.join (String.ofList operator.toList.dropLast) m (← evaluate n e))
      assign n m target
      return none
    | .return e => return some ((← evaluateOptional n e).getD .none)
    | .fail e _ => do
      match e with
      | none => raise { kind := "RuntimeError", message := "No active exception to reraise" }
      | some (.call (.name s) as) =>
        let m ← meaning s
        let values ← as.mapM (placedArgument n)
        raise { raisedOf m with message := ((values.flatten.head?).map Meaning.shown).getD "" }
      | some e => raise (raisedOf (← evaluate n e))
    | .ensure e message =>
      let m ← evaluate n e
      if m.isTrue then return none
      else
        let message ← evaluateOptional n message
        raise { kind := "AssertionError", message := (message.map Meaning.shown).getD "" }
    | .import modules =>
      for (module, name) in modules do
        if !isModule (← get).table module then raise (unknownModule module)
        let first := String.ofList (module.toList.takeWhile (· ≠ '.'))
        match name with
        | some s => bindName s (.ofModule module)
        | none => bindName first (.ofModule first)
      return none
    | .importFrom level module names =>
      let module ← ofExcept (moduleFrom (← get).unit level module)
      for (name, other) in names do
        bindName other (← ofExcept (imported (← get).table module name))
      return none
    | .importAll level module =>
      let t := (← get).table
      let module ← ofExcept (moduleFrom (← get).unit level module)
      if !isModule t module then raise (unknownModule module)
      for k in t do
        if k.head.module = module then bindName k.head.name (.type (.bare k.head))
      return none
    | .define name ps result decorators body =>
      let decorators ← decorators.mapM (evaluate n)
      let f ← define n name ps body
      discard (evaluateOptional n result)
      let m ← decorators.reverse.foldlM (fun m d => call n d ([m], [])) (.function f)
      bindName name m
      return none
    | .defineClass name _ _ _ =>
      bindName name (.type (.bare { module := (← get).unit, qualifiedName := name, name }))
      return none
    | .choose condition yes no =>
      let m ← evaluate n condition
      if m.isTrue then executeAll n yes else executeAll n no
    | .within _ body => executeAll n body
    | _ => return none

def executeAll : Nat → List Statement → Executing (Option Meaning)
  | 0, _ => raise tooDeep
  | _ + 1, [] => return none
  | n + 1, s :: r => do
    match ← execute n s with
    | some m => return some m
    | none => executeAll n r

end

end Wiring.Container.Executing
