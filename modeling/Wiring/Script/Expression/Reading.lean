import Wiring.Script.Reading

/-!
How expressions are read. The number in front of every reading bounds how deep readings nest; there are at most a few
for each token.
-/

namespace Wiring.Script.Expression

open Script.Reading

def levels : List (List String) :=
  [["|"], ["^"], ["&"], ["<<", ">>"], ["+", "-"], ["*", "/", "//", "%", "@"]]

def comparisons : List String :=
  ["==", "!=", "<", "<=", ">", ">="]

def beginsItem : Token → Bool
  | .name _ | .number _ | .text _ | .bytes _ | .template _ _ => true
  | .keyword s => s ∈ ["None", "True", "False", "not", "lambda", "await"]
  | .mark m => m ∈ ["(", "[", "\x7b", "+", "-", "~", "...", "*"]
  | _ => false

def comparison? : Reading (Option String) := do
  match ← takesOneOf comparisons with
  | some m => return some m
  | none =>
    if ← takesWord "in" then return some "in"
    else if ← takesWord "is" then
      if ← takesWord "not" then return some "is not" else return some "is"
    else
      match ← get with
      | .keyword "not" :: .keyword "in" :: r =>
        set r
        return some "not in"
      | _ => return none

inductive Piece where
  -- Braces that are doubled are text.
  | text (cs : List Char)
  | inside (cs : List Char)

def bracesTail? : (depth : Nat) → (quote : Option Char) → List Char → Option (List Char × List Char)
  -- Brackets and texts in it are skipped.
  | _, _, [] => none
  | depth, some q, c :: r => (bracesTail? depth (if c = q then none else some q) r).map fun p => (c :: p.1, p.2)
  | depth, none, c :: r =>
    let go (depth : Nat) (quote : Option Char) := (bracesTail? depth quote r).map fun p => (c :: p.1, p.2)
    if c = '"' ∨ c = '\'' then go depth (some c)
    else if c ∈ ['(', '[', '\x7b'] then go (depth + 1) none
    else if c = '\x7d' ∧ depth = 0 then some ([], r)
    else if c ∈ [')', ']', '\x7d'] then go (depth - 1) none
    else if c = '\\' ∨ c = '#' then none
    else go depth none

def pieces? : (steps : Nat) → List Char → Option (List Piece)
  | _, [] => some []
  | 0, _ => none
  | steps + 1, c :: r =>
    if c = '\x7b' ∧ r.head? = some c ∨ c = '\x7d' ∧ r.head? = some c then
      (pieces? steps r.tail).map (.text [c] :: ·)
    else if c = '\x7d' then none
    else if c = '\x7b' then do
      let (inside, rest) ← bracesTail? 0 none r
      return .inside inside :: (← pieces? steps rest)
    else
      let cs := (c :: r).takeWhile fun d => d ≠ '\x7b' && d ≠ '\x7d'
      (pieces? steps ((c :: r).drop cs.length)).map (.text cs :: ·)

def splitInside : (depth : Nat) → (quote : Option Char) → List Char → List Char × List Char
  | _, _, [] => ([], [])
  | depth, some q, c :: r =>
    let (a, b) := splitInside depth (if c = q then none else some q) r
    (c :: a, b)
  | depth, none, c :: r =>
    let go (depth : Nat) (quote : Option Char) :=
      let (a, b) := splitInside depth quote r
      (c :: a, b)
    if c = '"' ∨ c = '\'' then go depth (some c)
    else if c ∈ ['(', '[', '\x7b'] then go (depth + 1) none
    else if c ∈ [')', ']', '\x7d'] then go (depth - 1) none
    else if depth = 0 ∧ (c = ':' ∨ c = '!' ∧ r.head? ≠ some '=') then ([], c :: r)
    else if c = '!' then
      match r with
      | [] => ([c], [])
      | d :: r =>
        let (a, b) := splitInside depth none r
        (c :: d :: a, b)
    else go depth none

def afterExpression? (cs : List Char) : Option (Option Char × Option (List Char)) :=
  match cs with
  | [] => some (none, none)
  | ':' :: layout => some (none, some layout)
  | ['!', c] => if c ∈ ['s', 'r', 'a'] then some (some c, none) else none
  | '!' :: c :: ':' :: layout => if c ∈ ['s', 'r', 'a'] then some (some c, some layout) else none
  | _ => none

def shownText? (cs : List Char) : Option (List Char) :=
  let reversed := cs.reverse.dropWhile (· = ' ')
  match reversed with
  | '=' :: c :: _ => if c ∈ ['=', '!', '<', '>'] then none else some (reversed.tail.reverse)
  | _ => none

def constants : List String :=
  ["None", "True", "False"]

def unassignable : String :=
  "__debug__"

def isSpread : Expression → Bool
  | .spread _ => true
  | _ => false

def boundNames : List Token → List String
  | .name s :: .mark ":=" :: r => s :: boundNames r
  | _ :: r => boundNames r
  | [] => []

def since (start : List Token) : Reading (List Token) := do
  return start.take (start.length - (← get).length)

def isPlain (e : Expression) (start : List Token) : Bool :=
  !isSpread e && !(start.drop 1).head?.any (isMark ":=")

def checkSource (start : List Token) : Reading Unit := do
  if (← since start).any (isMark ":=") then refuse

def checkComprehension (start : List Token) (clauses : List (Expression × Expression × List Expression)) :
    Reading Unit := do
  -- A comprehension does not bind the names that its clauses give values to, unless a function does that in it.
  let ts ← since start
  let names := clauses.flatMap fun c => c.1.targetNames
  if !ts.any (isWord "lambda") && (boundNames ts).any (· ∈ names) then refuse

mutual

def isTarget : Expression → Bool
  | .name s | .attribute _ s => s ≠ unassignable
  | .subscript _ _ => true
  | .collection kind items => kind ≠ .set && areTargets items && (items.filter isSpread).length ≤ 1
  | _ => false

def areTargets : List Expression → Bool
  | [] => true
  | .spread e :: r => isTarget e && areTargets r
  | e :: r => isTarget e && areTargets r

end

inductive TextPart where
  | text (s : String)
  | bytes (s : String)
  | template (isRaw : Bool) (cs : List Char)

def textPart? : Token → Option TextPart
  | .text s => some (.text s)
  | .bytes s => some (.bytes s)
  | .template isRaw cs => some (.template isRaw cs)
  | _ => none

def takesText : Reading (Option TextPart) := do
  match (← next?).bind textPart? with
  | some t =>
    advance
    return some t
  | none => return none

def texts : Nat → Reading (List TextPart)
  | 0 => return []
  | n + 1 => do
    match ← takesText with
    | none => return []
    | some t => return t :: (← texts n)

def areOrdered : List ArgumentKind → Bool
  | [] => true
  | .named _ :: r => r.all (· ≠ .placed) && areOrdered r
  | .spreadNamed :: r => r.all (fun k => k ≠ .placed && k ≠ .spread) && areOrdered r
  | _ :: r => areOrdered r

def namesOf (ks : List ArgumentKind) : List String :=
  ks.filterMap fun
    | .named s => some s
    | _ => none

def areParameters (ps : List (Parameter Expression)) : Bool :=
  let placed := ps.filter fun p => p.kind = .normal
  let defaults := placed.map fun p => p.default.isSome
  (defaults.dropWhile (! ·)).all id && (ps.map (·.name)).Nodup && ps.all fun p => p.name ≠ unassignable

mutual

def expression : Nat → Reading Expression
  | 0 => refuse
  | n + 1 => do
    if ← takesWord "lambda" then
      let ps ← parameters n false ":"
      expectMark ":"
      return .function ps (← expression n)
    let e ← disjunction n
    if ← takesWord "if" then
      let condition ← disjunction n
      expectWord "else"
      return .conditional condition e (← expression n)
    else return e

def bindingExpression : Nat → Reading Expression
  | 0 => refuse
  | n + 1 => do
    match ← get with
    | .name s :: .mark ":=" :: r =>
      set r
      if s = unassignable then refuse
      return .bound s (← expression n)
    | _ => expression n

def disjunction : Nat → Reading Expression
  | 0 => refuse
  | n + 1 => do
    let e ← conjunction n
    if ← takesWord "or" then return .joined "or" e (← disjunction n) else return e

def conjunction : Nat → Reading Expression
  | 0 => refuse
  | n + 1 => do
    let e ← inversion n
    if ← takesWord "and" then return .joined "and" e (← conjunction n) else return e

def inversion : Nat → Reading Expression
  | 0 => refuse
  | n + 1 => do
    if ← takesWord "not" then return .prefixed "not" (← inversion n)
    let e ← joinedAt n levels
    match ← comparisonsFrom n with
    | [] => return e
    | others => return .compared e others

def comparisonsFrom : Nat → Reading (List (String × Expression))
  | 0 => refuse
  | n + 1 => do
    match ← comparison? with
    | none => return []
    | some c =>
      let e ← joinedAt n levels
      return (c, e) :: (← comparisonsFrom n)

def joinedAt : Nat → List (List String) → Reading Expression
  | 0, _ => refuse
  | n + 1, [] => factor n
  | n + 1, ms :: r => do joinedFrom n ms r (← joinedAt n r)

def joinedFrom : Nat → List String → List (List String) → Expression → Reading Expression
  | 0, _, _, _ => refuse
  | n + 1, ms, r, a => do
    match ← takesOneOf ms with
    | none => return a
    | some m => joinedFrom n ms r (.joined m a (← joinedAt n r))

def factor : Nat → Reading Expression
  | 0 => refuse
  | n + 1 => do
    match ← takesOneOf ["+", "-", "~"] with
    | some m => return .prefixed m (← factor n)
    | none =>
      let e ← behind n (← atom n)
      if ← takesMark "**" then return .joined "**" e (← factor n) else return e

def behind : Nat → Expression → Reading Expression
  | 0, _ => refuse
  | n + 1, e => do
    if ← takesMark "." then behind n (.attribute e (← takesName))
    else if ← takesMark "[" then
      let i ← subscripts n
      expectMark "]"
      behind n (.subscript e i)
    else if ← takesMark "(" then
      let as ← arguments n
      expectMark ")"
      if areOrdered (as.map Prod.fst) && (namesOf (as.map Prod.fst)).Nodup then behind n (.call e as) else refuse
    else return e

def subscripts : Nat → Reading Expression
  | 0 => refuse
  | n + 1 => do
    let first ← subscriptItem n
    if ← nextIsMark "," then
      return .collection .tuple (first :: (← subscriptItems n))
    else
      match first with
      | .spread _ => return .collection .tuple [first]
      | _ => return first

def subscriptItems : Nat → Reading (List Expression)
  | 0 => refuse
  | n + 1 => do
    if ← takesMark "," then
      if ← nextIsMark "]" then return []
      let e ← subscriptItem n
      return e :: (← subscriptItems n)
    else return []

def subscriptItem : Nat → Reading Expression
  | 0 => refuse
  | n + 1 => do
    if ← takesMark "*" then return .spread (← expression n)
    let start ← get
    let first ← if ← nextIsMark ":" then pure none else some <$> bindingExpression n
    if ← takesMark ":" then
      if first.any (!isPlain · start) then refuse
      let last ← sliceEnd n
      let step ← if ← takesMark ":" then sliceEnd n else pure none
      return .slice first last step
    else
      match first with
      | some e => return e
      | none => refuse

def sliceEnd : Nat → Reading (Option Expression)
  | 0 => refuse
  | n + 1 => do
    if (← nextIsMark ":") || (← nextIsMark "]") || (← nextIsMark ",") then return none
    else return some (← expression n)

def arguments : Nat → Reading (List (ArgumentKind × Expression))
  | 0 => refuse
  | n + 1 => do
    if ← nextIsMark ")" then return []
    let a ← argument n
    if ← takesMark "," then return a :: (← arguments n) else return [a]

def argument : Nat → Reading (ArgumentKind × Expression)
  | 0 => refuse
  | n + 1 => do
    if ← takesMark "*" then return (.spread, ← expression n)
    if ← takesMark "**" then return (.spreadNamed, ← expression n)
    match ← get with
    | .name s :: .mark "=" :: r =>
      set r
      return (.named s, ← expression n)
    | start =>
      let e ← bindingExpression n
      if ← nextIsWord "for" then
        let cs ← clauses n
        checkComprehension start cs
        if ← nextIsMark ")" then return (.placed, .comprehension "(" [e] cs) else refuse
      else return (.placed, e)

def clauses : Nat → Reading (List (Expression × Expression × List Expression))
  | 0 => refuse
  | n + 1 => do
    if ← takesWord "for" then
      let target ← targets n
      expectWord "in"
      if !isTarget target then refuse
      let start ← get
      let e ← disjunction n
      checkSource start
      let conditions ← conditions n
      return (target, e, conditions) :: (← clauses n)
    else return []

def conditions : Nat → Reading (List Expression)
  | 0 => refuse
  | n + 1 => do
    if ← takesWord "if" then
      let e ← disjunction n
      return e :: (← conditions n)
    else return []

def targets : Nat → Reading Expression
  | 0 => refuse
  | n + 1 => do
    let first ← target n
    if ← nextIsMark "," then return .collection .tuple (first :: (← targetsFrom n)) else return first

def targetsFrom : Nat → Reading (List Expression)
  | 0 => refuse
  | n + 1 => do
    if ← takesMark "," then
      if ← isNext beginsItem then
        let e ← target n
        return e :: (← targetsFrom n)
      else return []
    else return []

def target : Nat → Reading Expression
  | 0 => refuse
  | n + 1 => do
    if ← takesMark "*" then return .spread (← joinedAt n levels) else joinedAt n levels

def item : Nat → Reading Expression
  | 0 => refuse
  | n + 1 => do
    if ← takesMark "*" then return .spread (← joinedAt n levels) else bindingExpression n

def itemsFrom : Nat → Reading (List Expression)
  | 0 => refuse
  | n + 1 => do
    if ← takesMark "," then
      if ← isNext beginsItem then
        let e ← item n
        return e :: (← itemsFrom n)
      else return []
    else return []

def expressions : Nat → Reading Expression
  | 0 => refuse
  | n + 1 => do
    let first ← unboundItem n
    if ← nextIsMark "," then return .collection .tuple (first :: (← unboundItemsFrom n))
    else if isSpread first then refuse
    else return first

def unboundItem : Nat → Reading Expression
  | 0 => refuse
  | n + 1 => do
    if ← takesMark "*" then return .spread (← joinedAt n levels) else expression n

def unboundItemsFrom : Nat → Reading (List Expression)
  | 0 => refuse
  | n + 1 => do
    if ← takesMark "," then
      if ← isNext beginsItem then
        let e ← unboundItem n
        return e :: (← unboundItemsFrom n)
      else return []
    else return []

def yieldExpression : Nat → Reading Expression
  | 0 => refuse
  | n + 1 => do
    expectWord "yield"
    if ← takesWord "from" then return .yielded (some (← expression n))
    else if ← isNext beginsItem then return .yielded (some (← expressions n))
    else return .yielded none

def atom : Nat → Reading Expression
  | 0 => refuse
  | n + 1 => do
    match ← next? with
    | some (.name s) =>
      advance
      return .name s
    | some (.keyword s) =>
      if s ∈ constants then
        advance
        return .constant s
      else refuse
    | some (.number x) =>
      advance
      return .number x
    | some (.mark "...") =>
      advance
      return .constant "..."
    | some (.mark "(") =>
      advance
      parenthesized n
    | some (.mark "[") =>
      advance
      listed n
    | some (.mark "\x7b") =>
      advance
      braced n
    | some t => if (textPart? t).isSome then textAtom n else refuse
    | none => refuse

def parenthesized : Nat → Reading Expression
  | 0 => refuse
  | n + 1 => do
    if ← takesMark ")" then return .collection .tuple []
    if ← nextIsWord "yield" then
      let e ← yieldExpression n
      expectMark ")"
      return e
    let start ← get
    let first ← item n
    if ← nextIsWord "for" then
      let cs ← clauses n
      checkComprehension start cs
      expectMark ")"
      match first with
      | .spread _ => refuse
      | _ => return .comprehension "(" [first] cs
    else if ← nextIsMark "," then
      let rest ← itemsFrom n
      expectMark ")"
      return .collection .tuple (first :: rest)
    else
      match first with
      | .spread _ => refuse
      | _ =>
        expectMark ")"
        return first

def listed : Nat → Reading Expression
  | 0 => refuse
  | n + 1 => do
    if ← takesMark "]" then return .collection .list []
    let start ← get
    let first ← item n
    if ← nextIsWord "for" then
      let cs ← clauses n
      checkComprehension start cs
      expectMark "]"
      match first with
      | .spread _ => refuse
      | _ => return .comprehension "[" [first] cs
    else
      let rest ← itemsFrom n
      expectMark "]"
      return .collection .list (first :: rest)

def braced : Nat → Reading Expression
  | 0 => refuse
  | n + 1 => do
    if ← takesMark "\x7d" then return .dictionary []
    if ← nextIsMark "**" then pairs n
    else
      let start ← get
      let first ← item n
      if (← nextIsMark ":") && isPlain first start then
        expectMark ":"
        let value ← expression n
        if ← nextIsWord "for" then
          let cs ← clauses n
          checkComprehension start cs
          expectMark "\x7d"
          return .comprehension "\x7b" [first, value] cs
        else if ← takesMark "," then
          match ← pairs n with
          | .dictionary r => return .dictionary ((some first, value) :: r)
          | _ => refuse
        else
          expectMark "\x7d"
          return .dictionary [(some first, value)]
      else if !isSpread first && (← nextIsWord "for") then
        let cs ← clauses n
        checkComprehension start cs
        expectMark "\x7d"
        return .comprehension "\x7b" [first] cs
      else
        let rest ← itemsFrom n
        expectMark "\x7d"
        return .collection .set (first :: rest)

def pairs : Nat → Reading Expression
  | 0 => refuse
  | n + 1 => do
    if ← takesMark "\x7d" then return .dictionary []
    let key ← if ← takesMark "**" then pure none else do
      let k ← expression n
      expectMark ":"
      pure (some k)
    let value ← if key.isNone then joinedAt n levels else expression n
    if ← takesMark "," then
      match ← pairs n with
      | .dictionary r => return .dictionary ((key, value) :: r)
      | _ => refuse
    else
      expectMark "\x7d"
      return .dictionary [(key, value)]

def textAtom : Nat → Reading Expression
  | 0 => refuse
  | n + 1 => do
    let parts ← texts (← get).length
    let isBytes : TextPart → Bool
      | .bytes _ => true
      | _ => false
    if parts.all isBytes then
      return .bytes (String.join (parts.map fun
        | .bytes s => s
        | _ => ""))
    else if parts.any isBytes then refuse
    else if parts.any fun
        | .template _ _ => true
        | _ => false then return .template (← templateParts n parts)
    else return .text (String.join (parts.map fun
      | .text s => s
      | _ => ""))

def templateParts : Nat → List TextPart → Reading (List (Expression × Option Char × Option Expression))
  | 0, _ => refuse
  | _ + 1, [] => return []
  | n + 1, .template isRaw cs :: r => do
    match pieces? cs.length cs with
    | none => refuse
    | some ps =>
      let shown ← piecesOf n isRaw ps
      return shown ++ (← templateParts n r)
  | n + 1, .text s :: r => do return (.text s, none, none) :: (← templateParts n r)
  | n + 1, .bytes _ :: r => templateParts n r

def piecesOf : Nat → Bool → List Piece → Reading (List (Expression × Option Char × Option Expression))
  | 0, _, _ => refuse
  | _ + 1, _, [] => return []
  | n + 1, isRaw, .text cs :: r => do
    match if isRaw then some cs else unescaped? false cs.length cs with
    | none => refuse
    | some cs => return (.text (String.ofList cs), none, none) :: (← piecesOf n isRaw r)
  | n + 1, isRaw, .inside cs :: r => do
    let (body, after) := splitInside 0 none cs
    match afterExpression? after with
    | none => refuse
    | some (conversion, layout) =>
      let shown := shownText? body
      let e ← inside n (shown.getD body)
      let layout ← match layout with
        | none => pure none
        | some cs =>
          match pieces? cs.length cs with
          | none => refuse
          | some ps => some <$> Expression.template <$> piecesOf n isRaw ps
      let conversion := if shown.isSome ∧ conversion.isNone ∧ layout.isNone then some 'r' else conversion
      let before := (shown.toList.map fun _ => (Expression.text (String.ofList body), none, none))
      return before ++ (e, conversion, layout) :: (← piecesOf n isRaw r)

def inside : Nat → List Char → Reading Expression
  | 0, _ => refuse
  | n + 1, cs =>
    fun outer =>
      match (do
          expectMark "("
          let e ← if ← nextIsWord "yield" then yieldExpression n else insideItems n
          expectMark ")"
          return e : Reading Expression) (tokens (String.ofList ('(' :: cs ++ [')']))) with
      | .ok (e, [.lineEnd]) => .ok (e, outer)
      | _ => .error .malformed

def insideItems : Nat → Reading Expression
  | 0 => refuse
  | n + 1 => do
    let first ← item n
    if ← nextIsMark "," then return .collection .tuple (first :: (← itemsFrom n))
    else if isSpread first then refuse
    else return first

def parameters : Nat → (hasHints : Bool) → (closing : String) → Reading (List (Parameter Expression))
  | 0, _, _ => refuse
  | n + 1, hasHints, closing => do
    let ps ← parametersFrom n hasHints closing .normal
    if areParameters ps then return ps else refuse

def parametersFrom : Nat → Bool → String → ParameterKind → Reading (List (Parameter Expression))
  | 0, _, _, _ => refuse
  | n + 1, hasHints, closing, kind => do
    if ← nextIsMark closing then return []
    if ← takesMark "**" then
      let p ← parameter n hasHints .restNamed
      let _ ← takesMark ","
      if ← nextIsMark closing then return [p] else refuse
    else if ← takesMark "*" then
      if kind ≠ .normal then refuse
      if ← takesMark "," then
        if (← nextIsMark closing) || (← nextIsMark "**") then refuse
        parametersFrom n hasHints closing .named
      else
        let p ← parameter n hasHints .rest
        if ← takesMark "," then return p :: (← parametersFrom n hasHints closing .named)
        else if ← nextIsMark closing then return [p]
        else refuse
    else
      let p ← parameter n hasHints kind
      if ← takesMark "," then
        if ← takesMark "/" then
          if kind ≠ .normal then refuse
          if !(← takesMark ",") && !(← nextIsMark closing) then refuse
          return p :: (← parametersFrom n hasHints closing .normal)
        else return p :: (← parametersFrom n hasHints closing kind)
      else if ← nextIsMark closing then return [p]
      else refuse

def parameter : Nat → Bool → ParameterKind → Reading (Parameter Expression)
  | 0, _, _ => refuse
  | n + 1, hasHints, kind => do
    let s ← takesName
    let hasHint ← if hasHints then takesMark ":" else pure false
    let hint ← if !hasHint then pure none
      else if kind = .rest then some <$> item n
      else some <$> expression n
    let hasDefault ← if kind = .rest || kind = .restNamed then pure false else takesMark "="
    let default ← if hasDefault then some <$> expression n else pure none
    return { name := s, kind, hint, default }

end

def plainExpressions : Nat → Reading (List Expression)
  | 0 => refuse
  | n + 1 => do
    let e ← expression n
    if (← takesMark ",") && (← isNext beginsItem) then return e :: (← plainExpressions n) else return [e]

def weight : Token → Nat
  | .template _ cs => cs.length + 2
  | _ => 1

def depthFor (ts : List Token) : Nat :=
  32 * ts.foldl (fun n t => n + weight t) 2

def endsBlank (cs : List Char) : Bool :=
  let isEnd (c : Char) : Bool := c = '\n' || c = '\r'
  let last := cs.reverse.takeWhile (!isEnd ·)
  cs.any isEnd && last ≠ [] && last.all Text.isLineBlank

def ofText? (text : String) : Option Expression :=
  let ts := tokens text
  if endsBlank text.toList ∨ ts.any (isWord "yield") then none
  else match plainExpressions (depthFor ts) ts with
    | .ok ([e], [.lineEnd]) => if endsWithComma ts then some (.collection .tuple [e]) else some e
    | .ok (es, [.lineEnd]) => some (.collection .tuple es)
    | _ => none
where
  endsWithComma (ts : List Token) : Bool :=
    match ts.reverse with
    | .lineEnd :: t :: _ => isMark "," t
    | _ => false

end Wiring.Script.Expression
