import Wiring.Script.Literal
import Wiring.Plan.Keyword
import Wiring.Text.Identifier
import Wiring.Text.Normalization

/-!
The tokens of a script. Line ends and changes of the indentation are tokens too, outside of brackets; blanks, comments
and empty lines are none.
-/

namespace Wiring.Script

inductive Fault where
  | malformed
  | misindented
  | mixedTabs
  deriving DecidableEq

inductive Token where
  | name (s : String)
  | keyword (s : String)
  | number (n : Number)
  | text (s : String)
  | bytes (s : String)
  | template (isRaw : Bool) (s : List Char)
  | mark (s : String)
  | lineEnd
  | indent
  | dedent
  | broken (f : Fault)

def withLineFeeds : List Char → List Char
  | '\r' :: '\n' :: r => '\n' :: withLineFeeds r
  | '\r' :: r => '\n' :: withLineFeeds r
  | c :: r => c :: withLineFeeds r
  | [] => []

def marks : List String :=
  ["**=", "//=", ">>=", "<<=", "...", "**", "//", "<<", ">>", "<=", ">=", "==", "!=", "->", "+=", "-=", "*=", "/=",
    "%=", "&=", "|=", "^=", "@=", ":=", "+", "-", "*", "/", "%", "@", "&", "|", "^", "~", "<", ">", "(", ")", "[", "]",
    "\x7b", "\x7d", ",", ":", ".", ";", "="]

def isWordChar (c : Char) : Bool :=
  c.isAlphanum || c = '_' || 0x80 ≤ c.toNat

def textKinds : List String :=
  ["", "r", "u", "b", "f", "br", "rb", "fr", "rf"]

def textBody? (quote : Char) (isLong : Bool) : List Char → Option (List Char × List Char)
  -- A text between single quotes ends on its line.
  | [] => none
  | '\\' :: c :: r => (textBody? quote isLong r).map fun p => ('\\' :: c :: p.1, p.2)
  | c :: r =>
    if c = quote ∧ !isLong then some ([], r)
    else if c = quote ∧ isLong ∧ r.take 2 = [quote, quote] then some ([], r.drop 2)
    else if c = '\n' ∧ !isLong ∨ c = '\\' then none
    else (textBody? quote isLong r).map fun p => (c :: p.1, p.2)

def ofText? (kind : String) (body : List Char) : Option Token :=
  let isRaw := 'r' ∈ kind.toList
  if 'f' ∈ kind.toList then some (.template isRaw body)
  else if 'b' ∈ kind.toList then
    if body.any fun c => 0x80 ≤ c.toNat then none
    else (if isRaw then some body else unescaped? true body.length body).map fun cs => .bytes (String.ofList cs)
  else (if isRaw then some body else unescaped? false body.length body).map fun cs => .text (String.ofList cs)

def text? (kind : String) : List Char → Option (Token × List Char)
  | [] => none
  | q :: r => do
    let isLong := r.take 2 = [q, q]
    let (body, rest) ← textBody? q isLong (if isLong then r.drop 2 else r)
    return (← ofText? kind body, rest)

def afterNumber : List String :=
  ["and", "else", "for", "if", "in", "is", "not", "or"]

def endsNumber (cs : List Char) : Bool :=
  !(cs.head?.any isWordChar) || afterNumber.any fun w => w.toList.isPrefixOf cs

def power? : List Char → Option (List Char) × List Char
  | c :: r =>
    let sign := (r.head?.filter fun s => s = '+' || s = '-').toList
    let ds := (r.drop sign.length).takeWhile fun d => d.isDigit || d = '_'
    if c.toLower = 'e' ∧ ds.head?.any Char.isDigit then (some (sign ++ ds), r.drop (sign.length + ds.length))
    else (none, c :: r)
  | [] => (none, [])

def isBaseLetter (c : Char) : Bool :=
  c.toLower ∈ ['x', 'o', 'b']

def number? (cs : List Char) : Option (Token × List Char) := do
  let (n, rest) ← match cs with
    | '0' :: c :: r =>
      if isBaseLetter c then do
        let ds := r.takeWhile fun d => (Json.Parser.hexDigit? d).isSome || d = '_'
        let ds := if c.toLower = 'x' then ds else ds.takeWhile fun d => d.isDigit || d = '_'
        pure (Number.whole (← based? c ds), r.drop ds.length)
      else plain cs
    | cs => plain cs
  if endsNumber rest then return (.number n, rest) else none
where
  plain (cs : List Char) : Option (Number × List Char) := do
    let isPart (c : Char) := c.isDigit || c = '_'
    let whole := cs.takeWhile isPart
    let (fraction, r) := match cs.drop whole.length with
      | '.' :: r => (some (r.takeWhile isPart), r.dropWhile isPart)
      | r => (none, r)
    let (power, r) := power? r
    let isImaginary := r.head?.any fun c => c.toLower = 'j'
    return (← decimal? whole fraction power isImaginary, if isImaginary then r.tail else r)

def word? (w : List Char) : Option Token :=
  let s := String.ofList w
  if isKeyword s then some (.keyword s)
  else if Text.isIdentifier w then some (.name (Text.normalized s))
  else none

def token? : List Char → Option (Token × List Char)
  | [] => none
  | c :: r =>
    let w := (c :: r).takeWhile isWordChar
    let rest := (c :: r).drop w.length
    let kind := String.ofList (w.map Char.toLower)
    if rest.head?.any (fun q => q = '"' || q = '\'') ∧ kind ∈ textKinds then text? kind rest
    else if c.isDigit ∨ c = '.' ∧ r.head?.any Char.isDigit then number? (c :: r)
    else if w ≠ [] then (word? w).map fun t => (t, rest)
    else (marks.find? fun m => m.toList.isPrefixOf (c :: r)).map fun m => (.mark m, (c :: r).drop m.length)

/-! Indentation. A tab leads to the next column that eight divides. For the other measure it is one column, and lines
have to be in the same order by both. -/

abbrev Column := Nat × Nat

def column : Column → List Char → Column × List Char
  | (a, b), ' ' :: r => column (a + 1, b + 1) r
  | (a, b), '\t' :: r => column ((a / 8 + 1) * 8, b + 1) r
  | (a, b), '\\' :: '\n' :: r =>
    let (c, r) := column (a, b) r
    (if a = 0 then c else (a, a), r)
  | (a, b), c :: r => if c.toNat = 0x0c then column (0, 0) r else ((a, b), c :: r)
  | c, [] => (c, [])

def dedents (c : Column) : List Column → Except Fault (List Token × List Column)
  | [] => if c = (0, 0) then .ok ([], []) else if c.1 = 0 then .error .mixedTabs else .error .misindented
  | top :: below =>
    if c.1 < top.1 then (dedents c below).map fun p => (.dedent :: p.1, p.2)
    else if c = top then .ok ([], top :: below)
    else if c.1 = top.1 then .error .mixedTabs
    else .error .misindented

def indentation (c : Column) (open_ : List Column) : Except Fault (List Token × List Column) :=
  let top := open_.headD (0, 0)
  if top.1 < c.1 then if top.2 < c.2 then .ok ([.indent], c :: open_) else .error .mixedTabs
  else dedents c open_

structure Place where
  brackets : List String := []
  columns : List Column := []
  isLineStart : Bool := true

def closingOf : List (String × String) :=
  [("(", ")"), ("[", "]"), ("\x7b", "\x7d")]

def closings : List String :=
  closingOf.map Prod.snd

def afterToken (brackets : List String) : Token → Option (List String)
  | .mark m =>
    match Assoc.find? m closingOf with
    | some closing => some (closing :: brackets)
    | none =>
      if m ∈ closings then
        match brackets with
        | b :: r => if b = m then some r else none
        | [] => none
      else some brackets
  | _ => some brackets

def tokensFrom : (steps : Nat) → Place → List Char → List Token
  | 0, _, _ => [.broken .malformed]
  | steps + 1, p, cs =>
    if p.isLineStart ∧ p.brackets = [] then
      let (c, r) := column (0, 0) cs
      match r with
      | '\n' :: r => tokensFrom steps p r
      | '#' :: r => tokensFrom steps p (r.dropWhile (· ≠ '\n'))
      | [] => p.columns.map fun _ => .dedent
      | r =>
        match indentation c p.columns with
        | .error f => [.broken f]
        | .ok (ts, columns) => ts ++ tokensFrom steps { p with columns, isLineStart := false } r
    else
      match cs with
      | [] =>
        if p.brackets ≠ [] then [.broken .malformed]
        else .lineEnd :: p.columns.map fun _ => .dedent
      | '\\' :: '\n' :: c :: r => tokensFrom steps p (c :: r)
      | '#' :: r => tokensFrom steps p (r.dropWhile (· ≠ '\n'))
      | '\n' :: r =>
        if p.brackets ≠ [] then tokensFrom steps p r
        else .lineEnd :: tokensFrom steps { p with isLineStart := true } r
      | c :: r =>
        if Text.isLineBlank c then tokensFrom steps p r
        else
          match token? (c :: r) with
          | none => [.broken .malformed]
          | some (t, rest) =>
            match afterToken p.brackets t with
            | none => [.broken .malformed]
            | some brackets => t :: tokensFrom steps { p with brackets } rest

def tokens (text : String) : List Token :=
  let cs := withLineFeeds text.toList
  tokensFrom (2 * cs.length + 2) {} cs

end Wiring.Script
