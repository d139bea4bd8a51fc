import Wiring.Settings.Lookup
import Wiring.Text.Blank
import Wiring.Text.Quoted
import Wiring.Text.Split

/-!
Settings as words of a command line: an option per field, with its value in the next word or behind an equals sign.
A field of several texts takes them from lists with commas, and may be given again for more.
-/

namespace Wiring.Settings

structure Words where
  lead : String := ""
  isExact : Bool := false
  hasHyphens : Bool := false
  hasFlags : Bool := false
  skipsUnknown : Bool := false
  isFatal : Bool := true
  absent : String := "null"

namespace Words

def ofOverrides (overrides : List (String × Json)) : Words where
  lead := ((Lookup.textOf? overrides "_cli_prefix").filter (· ≠ "")).elim "" (· ++ ".")
  isExact := Lookup.holds overrides "_case_sensitive"
  hasHyphens := Lookup.holds overrides "_cli_kebab_case"
  hasFlags := Lookup.holds overrides "_cli_implicit_flags"
  skipsUnknown := Lookup.holds overrides "_cli_ignore_unknown_args"
  isFatal := match Assoc.find? "_cli_exit_on_error" overrides with
    | none | some .null => true
    | some v => v.isTruthy
  absent := (Lookup.textOf? overrides "_cli_parse_none_str").getD
    (if Lookup.holds overrides "_cli_avoid_json" then "None" else "null")

inductive Meaning where
  | valued (field : String)
  | flag (field : String) (value : Bool)

def optionName (w : Words) (lead field : String) : String :=
  let name := if w.hasHyphens then field.map fun c => if c = '_' then '-' else c else field
  "--" ++ lead ++ w.lead ++ name

def options (w : Words) : List (String × Meaning) :=
  fieldNames.flatMap fun field =>
    if w.hasFlags && field = "json_logs" then
      [(w.optionName "" field, .flag field true), (w.optionName "no-" field, .flag field false)]
    else [(w.optionName "" field, .valued field)]

def spelled (w : Words) (word : String) : String :=
  match word.toList with
  | '-' :: _ :: _ =>
    if w.isExact then word
    else
      let ends (c : Char) := c = '=' || Text.isBlank c
      let name := word.toList.takeWhile (!ends ·)
      lowered (String.ofList name) ++
        String.ofList ((word.toList.drop name.length).takeWhile (· ≠ '\n'))
  | _ => word

def isNegative (cs : List Char) : Bool :=
  match cs with
  | '-' :: r =>
    let fraction := r.dropWhile Char.isDigit
    (fraction = [] && r ≠ []) ||
      (match fraction with
      | '.' :: digits => digits ≠ [] && digits.all Char.isDigit
      | _ => false)
  | _ => false

def isValue (w : Words) (word : String) : Bool :=
  match word.toList with
  | [] => true
  | cs@(c :: r) =>
    c ≠ '-' || r = [] ||
      (!Assoc.contains (String.ofList (cs.takeWhile (· ≠ '='))) w.options && word ≠ "--" &&
        (isNegative cs || ' ' ∈ cs))

structure Findings where
  texts : List (String × String) := []
  flags : List (String × Bool) := []
  unknown : List String := []

def Findings.give (field text : String) (f : Findings) : Findings :=
  { f with texts := f.texts ++ [(field, text)] }

def find (w : Words) (f : Findings) : List String → Except Fault Findings
  | [] => .ok f
  | word :: r =>
    let name := String.ofList (word.toList.takeWhile (· ≠ '='))
    let value := word.toList.drop (name.length + 1)
    match if w.isValue word then none else Assoc.find? name w.options with
    | none => find w { f with unknown := f.unknown ++ [word] } r
    | some (.flag field set) =>
      if name = word then find w { f with flags := f.flags ++ [(field, set)] } r
      else .error (.words ("argument " ++ "/".intercalate
        ((w.options.filter fun o => match o.2 with
          | .flag _ _ => true
          | .valued _ => false).map Prod.fst) ++ ": ignored explicit argument " ++
          Text.quoted (String.ofList value)) w.isFatal)
    | some (.valued field) =>
      if name = word then
        match r with
        | [] => .error (.words ("argument " ++ name ++ ": expected one argument") w.isFatal)
        | v :: r =>
          if w.isValue v then find w (f.give field v) r
          else .error (.words ("argument " ++ name ++ ": expected one argument") w.isFatal)
      else find w (f.give field (String.ofList value)) r

/-! The lists that texts stand for. -/

def splitNested? (close : Char) (depth : Int) (isQuoted : Bool) (previous : Char) :
    List Char → Option (List Char × List Char)
  | [] => none
  | c :: r =>
    let go (depth : Int) (isQuoted : Bool) := (splitNested? close depth isQuoted c r).map fun p => (c :: p.1, p.2)
    if c = '"' ∧ previous ≠ '\\' then go depth !isQuoted
    else if isQuoted then go depth isQuoted
    else if c = '\x7b' ∨ c = '[' then go (depth + 1) isQuoted
    else if c = '\x7d' ∨ c = ']' then
      if c = close ∧ depth = 1 then some ([c], r) else go (depth - 1) isQuoted
    else go depth isQuoted

def splitItem? (isQuoted : Bool) (previous : Char) : List Char → Option (List Char × List Char)
  | [] => if isQuoted then none else some ([], [])
  | c :: r =>
    let isQuoted := if c = '"' ∧ previous ≠ '\\' then !isQuoted else isQuoted
    if !isQuoted ∧ c = ',' then some ([], c :: r)
    else (splitItem? isQuoted c r).map fun p => (c :: p.1, p.2)

def areDigits (cs : List Char) : Bool :=
  (Text.pieces '_' cs).all fun p => p ≠ [] && p.all Char.isDigit

def unsigned : List Char → List Char
  | '+' :: r | '-' :: r => r
  | r => r

def isNumber (cs : List Char) : Bool :=
  let cs := (unsigned cs).map Char.toLower
  let (digits, power) := (cs.takeWhile (· ≠ 'e'), cs.dropWhile (· ≠ 'e'))
  let (whole, fraction) := (digits.takeWhile (· ≠ '.'), (digits.dropWhile (· ≠ '.')).drop 1)
  String.ofList cs ∈ ["inf", "infinity", "nan"] ||
    (whole ≠ [] || fraction ≠ []) && (whole = [] || areDigits whole) && (fraction = [] || areDigits fraction) &&
      (power = [] || areDigits (unsigned (power.drop 1)))

def itemText (absent : String) (cs : List Char) : String :=
  let text := String.ofList (Text.trimBlanks cs)
  if isNumber text.toList then text
  else
    let text := if text = absent then "null" else text
    if text ∈ ["true", "false", "null"] ∨ text.toList.head? = some '"' then text else "\"" ++ text ++ "\""

def itemTexts (absent : String) (behindItem : Bool) : Nat → List Char → Except String (List String × Bool)
  | 0, _ => .ok ([], behindItem)
  | fuel + 1, cs =>
    match Text.trimBlanks cs with
    | [] => .ok ([], behindItem)
    | c :: r =>
      let more (item : List String) (behindItem : Bool) (rest : List Char) :=
        (itemTexts absent behindItem fuel rest).map fun p => (item ++ p.1, p.2)
      if c = ',' then more (if behindItem then [] else ["\"\""]) false r
      else if c = '\x7b' ∨ c = '[' then
        let close := if c = '[' then ']' else '\x7d'
        match splitNested? close 1 false c r with
        | none => .error ("Missing end delimiter \"" ++ close.toString ++ "\"")
        | some (item, rest) => more [String.ofList (c :: item)] true rest
      else
        match splitItem? false ' ' (c :: r) with
        | none => .error "Mismatched quotes"
        | some (item, rest) => more [itemText absent item] true rest

def unbracketed (cs : List Char) : List Char :=
  match Text.trimBlanks cs with
  | '[' :: r => if r.getLast? = some ']' then Text.trimBlanks r.dropLast else '[' :: r
  | cs => cs

def listText (absent : String) : Bool → List String → Except String (List String)
  | _, [] => .ok []
  | behindItem, text :: r => do
    let cs := unbracketed text.toList
    let (items, behindItem) ← itemTexts absent behindItem (cs.length + 1) cs
    return items ++ (if behindItem then [] else ["\"\""]) ++ (← listText absent behindItem r)

def value? (w : Words) (f : Findings) (field : String) : Except Fault (Option Json) :=
  let texts := (f.texts.filter fun t => t.1 = field).map Prod.snd
  match texts.getLast?, f.flags.reverse.find? fun t => t.1 = field with
  | none, none => .ok none
  | none, some flag => .ok (some (.bool flag.2))
  | some last, _ =>
    if field ∈ tupleFields then
      match listText w.absent false texts with
      | .error reason => .error (.brokenList field reason)
      | .ok items =>
        let text := "[" ++ ",".intercalate items ++ "]"
        if text = w.absent then .ok (some .null) else documentOf? field .words text
    else .ok (some (if last = w.absent then .null else .string last))

def read (w : Words) (words : List String) : Except Fault (List (String × Json)) := do
  let f ← w.find {} (words.map w.spelled)
  if f.unknown ≠ [] ∧ !w.skipsUnknown then
    throw (.words ("unrecognized arguments: " ++ " ".intercalate f.unknown) w.isFatal)
  fieldNames.filterMapM fun field => return (← w.value? f field).map fun j => (field, j)

def word? : Json → Option String
  | .string s => some s
  | _ => none

def fromOverrides (overrides : List (String × Json)) : Except Fault (List (String × Json)) :=
  match Assoc.find? "_cli_parse_args" overrides with
  | some (.array items) =>
    match items.mapM word? with
    | some words => (ofOverrides overrides).read words
    | none => .error .mistyped
  | some (.string _) => .error (.notWords "str")
  | some (.object _) => .error (.notWords "dict")
  | some (.integer n) => if n = 0 then .ok [] else .error (.notWords "int")
  | some (.decimal d) => if d.isZero then .ok [] else .error (.notWords "float")
  | none | some .null | some (.bool _) => .ok []

end Words

end Wiring.Settings
