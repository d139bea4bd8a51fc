import Wiring.Container.Calling
import Wiring.Text.Case
import Wiring.Text.Identifier
import Wiring.Text.Template

/-!
Methods of texts, numbers and collections. What a method changes in place is not seen by anything that is looked at
later, so nothing is changed.
-/

namespace Wiring.Container.Method

open Indexing (index?)
open Operation (ofInt text?)
open Calling (Arguments wrongValue wholeNumber)

def lower (s : String) : String :=
  String.ofList (s.toList.flatMap Text.small)

def upper (s : String) : String :=
  String.ofList (s.toList.flatMap Text.capitals)

def capitalized : List Char → List Char
  | [] => []
  | c :: r => Text.capitals c ++ r.flatMap Text.small

def isCased (c : Char) : Bool :=
  Text.small c ≠ [c] || Text.capitals c ≠ [c]

def titled : (inWord : Bool) → List Char → List Char
  | _, [] => []
  | inWord, c :: r => (if inWord then Text.small c else Text.capitals c) ++ titled (isCased c) r

def swapped (c : Char) : List Char :=
  if Text.small c = [c] then Text.capitals c else Text.small c

def strippedLeft (drops : Char → Bool) (s : String) : String :=
  String.ofList (s.toList.dropWhile drops)

def strippedRight (drops : Char → Bool) (s : String) : String :=
  String.ofList (s.toList.reverse.dropWhile drops).reverse

def words (s : String) : List String :=
  ((s.toList.splitBy fun a b => Text.isBlank a = Text.isBlank b).filter fun g => !g.any Text.isBlank).map String.ofList

def find? (s t : String) : Option Nat :=
  if t = "" then some 0
  else match s.splitOn t with
    | front :: _ :: _ => some front.length
    | _ => none

def findLast? (s t : String) : Option Nat :=
  if t = "" then some s.length
  else match (s.splitOn t).reverse with
    | back :: _ :: _ => some (s.length - t.length - back.length)
    | _ => none

def occurrences (s t : String) : Nat :=
  if t = "" then s.length + 1 else (s.splitOn t).length - 1

def replaced (s old new : String) : String :=
  if old = "" then new ++ String.join (s.toList.map fun c => c.toString ++ new)
  else new.intercalate (s.splitOn old)

def filled (width : Int) (fill : Char) (left : Nat → Nat) (s : String) : String :=
  let missing := width.toNat - s.length
  let onLeft := left missing
  String.ofList (List.replicate onLeft fill) ++ s ++ String.ofList (List.replicate (missing - onLeft) fill)

def texts (s : List String) : Meaning :=
  .items .list (s.map .ofText)

def ofTextAlone? (name s : String) : Option Meaning :=
  let cs := s.toList
  let allAre (p : Char → Bool) : Option Meaning := some (.ofBool (cs ≠ [] && cs.all p))
  match name with
  | "upper" => some (.ofText (upper s))
  | "lower" | "casefold" => some (.ofText (lower s))
  | "capitalize" => some (.ofText (String.ofList (capitalized cs)))
  | "title" => some (.ofText (String.ofList (titled false cs)))
  | "swapcase" => some (.ofText (String.ofList (cs.flatMap swapped)))
  | "isalpha" => allAre fun c => Text.isLetter c && c ≠ '_'
  | "isalnum" => allAre fun c => (Text.isLetter c && c ≠ '_') || (Text.scriptDigit? c).isSome
  | "isdigit" | "isdecimal" | "isnumeric" => allAre fun c => (Text.scriptDigit? c).isSome
  | "isspace" => allAre Text.isBlank
  | "isascii" => some (.ofBool (cs.all fun c => c.toNat < 128))
  | "isprintable" => some (.ofBool (cs.all Text.isPrintable))
  | "isidentifier" => some (.ofBool (Text.isIdentifier cs))
  | "isupper" => some (.ofBool (cs.any isCased && cs.all fun c => Text.small c ≠ [c] || !isCased c))
  | "islower" => some (.ofBool (cs.any isCased && cs.all fun c => Text.small c = [c]))
  | "istitle" => some (.ofBool (cs.any isCased && titled false cs = cs))
  | _ => none

def textArgument (role : String) (m : Meaning) : Except Raised String :=
  match text? m with
  | some s => .ok s
  | none => .error (.type (role ++ "must be str, not " ++ m.sort))

def strips (name : String) (ms : List Meaning) : Except Raised (Char → Bool) :=
  match ms with
  | [] | .type (.key .null) :: _ => .ok Text.isBlank
  | .type (.key (.string s)) :: _ => .ok (· ∈ s.toList)
  | _ :: _ => .error (.type (name ++ " arg must be None or str"))

def separated (s : String) (ms : List Meaning) : Except Raised Meaning := do
  if let some m := ms[1]? then discard (wholeNumber m)
  match ms with
  | [] | .type (.key .null) :: _ => return texts (words s)
  | .type (.key (.string t)) :: _ =>
    if t = "" then throw (wrongValue "empty separator") else return texts (s.splitOn t)
  | m :: _ => throw (.type ("must be str or None, not " ++ m.sort))

def joined (s : String) (m : Meaning) : Except Raised Meaning := do
  let ms ← (Items.ofMeaning m).mapError fun _ => .type "can only join an iterable"
  let parts ← ms.zipIdx.mapM fun (m, i) =>
    match text? m with
    | some t => .ok t
    | none => .error (.type
        ("sequence item " ++ toString i ++ ": expected str instance, " ++ m.sort ++ " found"))
  return .ofText (s.intercalate parts)

def atEnd (name s : String) (m : Meaning) : Except Raised Bool :=
  let has (t : String) : Bool := if name = "startswith" then s.startsWith t else s.endsWith t
  match m with
  | .type (.key (.string t)) => .ok (has t)
  | .items .tuple ms => .ok (ms.any fun m => (text? m).any has)
  | m => .error (.type (name ++ " first arg must be str or a tuple of str, not " ++ m.sort))

def parted (fromEnd : Bool) (s t : String) : Except Raised Meaning :=
  if t = "" then .error (wrongValue "empty separator")
  else
    let cut (n : Nat) : List String :=
      [String.ofList (s.toList.take n), t, String.ofList (s.toList.drop (n + t.length))]
    let parts := match if fromEnd then findLast? s t else find? s t with
      | some n => cut n
      | none => if fromEnd then ["", "", s] else [s, "", ""]
    .ok (.items .tuple (parts.map .ofText))

def notFound : Raised :=
  wrongValue "substring not found"

def ofText (s name : String) (arguments : Arguments) : Except Raised Meaning := do
  let ms := arguments.1
  match ofTextAlone? name s with
  | some m => return m
  | none =>
    match name, ms with
    | "strip", ms => return .ofText (strippedLeft (← strips name ms) (strippedRight (← strips name ms) s))
    | "lstrip", ms => return .ofText (strippedLeft (← strips name ms) s)
    | "rstrip", ms => return .ofText (strippedRight (← strips name ms) s)
    | "split", ms | "rsplit", ms => separated s ms
    | "splitlines", _ =>
      let lines := s.splitOn "\n"
      return texts (if lines.getLast? = some "" then lines.dropLast else lines)
    | "join", [m] => joined s m
    | "replace", old :: new :: _ =>
      let old ← textArgument "replace() argument 1 " old
      return .ofText (replaced s old (← textArgument "replace() argument 2 " new))
    | "startswith", m :: _ | "endswith", m :: _ => .ofBool <$> atEnd name s m
    | "find", m :: _ => return ofInt (((find? s (← textArgument "" m)).map Int.ofNat).getD (-1))
    | "rfind", m :: _ => return ofInt (((findLast? s (← textArgument "" m)).map Int.ofNat).getD (-1))
    | "index", m :: _ =>
      match find? s (← textArgument "" m) with
      | some n => return ofInt n
      | none => throw notFound
    | "rindex", m :: _ =>
      match findLast? s (← textArgument "" m) with
      | some n => return ofInt n
      | none => throw notFound
    | "count", m :: _ => return ofInt (occurrences s (← textArgument "" m))
    | "partition", [m] => parted false s (← textArgument "" m)
    | "rpartition", [m] => parted true s (← textArgument "" m)
    | "removeprefix", [m] =>
      let t ← textArgument "removeprefix() argument " m
      return .ofText (if s.startsWith t then String.ofList (s.toList.drop t.length) else s)
    | "removesuffix", [m] =>
      let t ← textArgument "removesuffix() argument " m
      return .ofText (if s.endsWith t then String.ofList (s.toList.take (s.length - t.length)) else s)
    | "zfill", [m] =>
      let width ← wholeNumber m
      let (sign, digits) := match s.toList with
        | c :: r => if c = '-' ∨ c = '+' then (c.toString, r) else ("", c :: r)
        | [] => ("", [])
      return .ofText (sign ++ filled (width - sign.length) '0' id (String.ofList digits))
    | "ljust", m :: fill => return .ofText (filled (← wholeNumber m) (filling fill) (fun _ => 0) s)
    | "rjust", m :: fill => return .ofText (filled (← wholeNumber m) (filling fill) id s)
    | "center", m :: fill =>
      let width ← wholeNumber m
      return .ofText (filled width (filling fill) (fun n => n / 2 + n % 2 * (width.toNat % 2)) s)
    | "encode", _ => Calling.bytesOf ([.ofText s, .ofText "utf-8"], [])
    | "format", ms => .ofText <$> Calling.ofTemplate .none (Text.Template.fill s (ms.map Calling.templateValue))
    | _, _ => return .thing "object" none "<object>"
where
  filling (ms : List Meaning) : Char :=
    ((ms.head?.bind text?).bind fun s => s.toList.head?).getD ' '

def placeOf (kind : Script.CollectionKind) (ms : List Meaning) (m : Meaning) : Except Raised Meaning :=
  match ms.findIdx? (Items.areEqual m) with
  | some i => .ok (ofInt i)
  | none => .error (wrongValue (
      if kind = .list then m.text ++ " is not in list" else "tuple.index(x): x not in tuple"))

def taken (ms indices : List Meaning) : Except Raised Meaning := do
  if ms.isEmpty then throw { kind := "IndexError", message := "pop from empty list" }
  let n ← wholeNumber (indices.headD (ofInt (-1)))
  match (Indexing.place? ms.length n).bind (ms[·]?) with
  | some m => return m
  | none => throw { kind := "IndexError", message := "pop index out of range" }

def ofItems (kind : Script.CollectionKind) (ms : List Meaning) (name : String) (arguments : List Meaning) :
    Except Raised Meaning := do
  match kind, name, arguments with
  | _, "copy", [] => return .items kind ms
  | .set, "pop", [] =>
    match ms with
    | m :: _ => return m
    | [] => throw { kind := "KeyError", message := "'pop from an empty set'" }
  | .set, "union", ns => together "|" ns
  | .set, "intersection", ns => together "&" ns
  | .set, "difference", ns => together "-" ns
  | .set, "symmetric_difference", ns => together "^" ns
  | .set, "add", [m] | .set, "discard", [m] =>
    Items.checkKeys [m]
    return .none
  | .set, "remove", [m] =>
    Items.checkKeys [m]
    if Items.isAmong ms m then return .none else throw (Items.missingKey m)
  | .set, "issubset", [m] => return .ofBool (ms.all (Items.isAmong (← Items.ofMeaning m)))
  | .set, "issuperset", [m] => return .ofBool ((← Items.ofMeaning m).all (Items.isAmong ms))
  | .set, "isdisjoint", [m] => return .ofBool (!(← Items.ofMeaning m).any (Items.isAmong ms))
  | .set, _, _ => return .none
  | .list, "sort", _ :: _ => throw (.type "sort() takes no positional arguments")
  | _, "index", m :: _ => placeOf kind ms m
  | _, "count", [m] => return ofInt (ms.countP (Items.areEqual m))
  | .list, "pop", indices => taken ms indices
  | .list, "extend", [m] =>
    discard (Items.ofMeaning m)
    return .none
  | .list, "remove", [m] =>
    if Items.isAmong ms m then return .none else throw (wrongValue "list.remove(x): x not in list")
  | _, _, _ => return .none
where
  together (operator : String) (ns : List Meaning) : Except Raised Meaning := do
    let sets ← ns.mapM fun m => do Items.distinct (← Items.ofMeaning m)
    Items.asSet (sets.foldl (fun ms n => (Items.combine? operator ms n).getD ms) ms)

def view (sort : String) (items : List Meaning) : Meaning :=
  .iterator sort (sort ++ "(" ++ (Meaning.items .list items).text ++ ")") (.ok items)

def ofDictionary (keys values : List Meaning) (name : String) (arguments : List Meaning) : Except Raised Meaning := do
  let pairs := keys.zipWith (fun k v => Meaning.items .tuple [k, v]) values
  match name, arguments with
  | "keys", [] => return view "dict_keys" keys
  | "values", [] => return view "dict_values" values
  | "items", [] => return view "dict_items" pairs
  | "copy", [] => return .dictionary keys values
  | "update", [m] =>
    discard (Calling.dictionaryOf ([m], []))
    return .none
  | "get", k :: default | "setdefault", k :: default => orElse (Items.under keys values k) (some (default.headD .none))
  | "pop", k :: default => orElse (Items.under keys values k) default.head?
  | "popitem", [] =>
    match pairs.getLast? with
    | some m => return m
    | none => throw { kind := "KeyError", message := "'popitem(): dictionary is empty'" }
  | _, _ => return .none
where
  orElse (found : Except Raised Meaning) (default : Option Meaning) : Except Raised Meaning :=
    match found, default with
    | .error r, some m => if r.kind = "KeyError" then .ok m else .error r
    | found, _ => found

def ofBytes (s name : String) (arguments : Arguments) : Except Raised Meaning :=
  match name with
  | "decode" => .ok (.ofText ((String.fromUTF8? ⟨(s.toList.map fun c => UInt8.ofNat c.toNat).toArray⟩).getD s))
  | "hex" => .ok (.ofText (String.ofList (s.toList.flatMap fun c => Text.hexDigits 2 c.toNat)))
  | name =>
    (ofText s name arguments).map fun
      | .type (.key (.string t)) => .bytes t
      | m => m

def ofNumber (n : Int) (name : String) : Meaning :=
  match name with
  | "bit_length" => ofInt (if n = 0 then 0 else n.natAbs.log2 + 1)
  | "bit_count" => ofInt ((Nat.toDigits 2 n.natAbs).count '1')
  | "conjugate" | "__trunc__" | "__floor__" | "__ceil__" | "__round__" => ofInt n
  | "as_integer_ratio" => .items .tuple [ofInt n, ofInt 1]
  | _ => .thing "object" none "<object>"

def arities : List (String × List (Calling.Arity × String)) :=
  [("str",
      [(.exactly 0, "upper lower casefold capitalize title swapcase isalpha isalnum isdigit isdecimal isnumeric"),
        (.exactly 0, "isspace isascii isprintable isidentifier isupper islower istitle"),
        (.exactly 1, "join partition rpartition zfill removeprefix removesuffix"), (.expected 2 3, "replace"),
        (.expected 1 2, "ljust rjust center"), (.expected 0 1, "strip lstrip rstrip"),
        (.taken 1 3, "count find rfind index rindex startswith endswith"), (.taken 0 2, "split rsplit encode"),
        (.taken 0 1, "splitlines")]),
    ("list",
      [(.exactly 0, "copy reverse clear"), (.exactly 1, "append extend remove count"), (.expected 1 3, "index"),
        (.expected 2 2, "insert"), (.expected 0 1, "pop")]),
    ("tuple", [(.exactly 1, "count"), (.expected 1 3, "index")]),
    ("dict",
      [(.exactly 0, "keys values items copy popitem clear"), (.expected 1 2, "get setdefault pop"),
        (.expected 0 1, "update")]),
    ("set",
      [(.exactly 0, "pop copy clear"),
        (.exactly 1, "add remove discard issubset issuperset isdisjoint symmetric_difference")]),
    ("int", [(.exactly 0, "bit_length bit_count conjugate as_integer_ratio")])]

def call (m : Meaning) (name : String) (arguments : Arguments) : Except Raised Meaning := do
  let arity := (Assoc.find? m.sort arities).bind fun table => Calling.arity? table name
  if let some r := arity.bind fun a => a.fault? name (m.sort ++ "." ++ name) arguments.1.length then throw r
  match m, index? m with
  | .type (.key (.string s)), _ => ofText s name arguments
  | .bytes s, _ => ofBytes s name arguments
  | .items kind ms, _ => ofItems kind ms name arguments.1
  | .dictionary ks vs, _ => ofDictionary ks vs name arguments.1
  | _, some n => return ofNumber n name
  | _, none => return .thing "object" none "<object>"

end Wiring.Container.Method
