import Wiring.Container.Meaning

/-!
Items of collections and texts by their places, and slices of them. A place may be counted from the end.
-/

namespace Wiring.Container.Indexing

def outOfRange (sort : String) : Raised where
  kind := "IndexError"
  message := sort ++ " index out of range"

def place? (length : Nat) (index : Int) : Option Nat :=
  let n := if index < 0 then index + length else index
  if 0 ≤ n ∧ n < length then some n.toNat else none

def index? : Meaning → Option Int
  | .type (.key (.integer n)) => some n
  | .type (.key (.bool b)) => some b.toInt
  | _ => none

def slicePart (m : Meaning) : Except Raised (Option Int) :=
  match m, index? m with
  | .type (.key .null), _ => .ok none
  | _, some n => .ok (some n)
  | _, none => .error (.type "slice indices must be integers or None or have an __index__ method")

def bound (length : Nat) (least most : Int) (n : Int) : Int :=
  let n := if n < 0 then n + length else n
  max least (min most n)

def places (length : Nat) (first last : Option Int) (step : Int) : List Nat :=
  let (least, most) : Int × Int := if step < 0 then (-1, (length : Int) - 1) else (0, length)
  let start := (first.map (bound length least most)).getD (if step < 0 then most else least)
  let stop := (last.map (bound length least most)).getD (if step < 0 then least else most)
  (List.range length).filterMap fun (i : Nat) =>
    let p := start + (i : Int) * step
    if (0 < step ∧ p < stop) ∨ (step < 0 ∧ stop < p) then some p.toNat else none

def slice {α : Type} (items : List α) (parts : List Meaning) : Except Raised (List α) := do
  match parts with
  | [first, last, step] =>
    let step ← slicePart step
    if step = some 0 then throw { kind := "ValueError", message := "slice step cannot be zero" }
    let first ← slicePart first
    let last ← slicePart last
    return (places items.length first last (step.getD 1)).filterMap (items[·]?)
  | _ => return items

def itemAt (sort : String) (ms : List Meaning) (index : Meaning) : Except Raised Meaning :=
  match index? index with
  | some n =>
    match (place? ms.length n).bind (ms[·]?) with
    | some m => .ok m
    | none => .error (outOfRange sort)
  | none => .error (.type (sort ++ " indices must be integers or slices, not " ++ index.sort))

def characterAt (s : String) (index : Meaning) : Except Raised Meaning :=
  match index? index with
  | some n =>
    match (place? s.length n).bind (s.toList[·]?) with
    | some c => .ok (.ofText (String.singleton c))
    | none => .error (outOfRange "string")
  | none => .error (.type ("string indices must be integers, not '" ++ index.sort ++ "'"))

def ofItems (kind : Script.CollectionKind) (ms : List Meaning) (index : Meaning) : Except Raised Meaning :=
  match index with
  | .slice parts => .items kind <$> slice ms parts
  | index => itemAt (Meaning.collectionSort kind) ms index

def byteAt (s : String) (index : Meaning) : Except Raised Meaning :=
  match index? index with
  | some n =>
    match (place? s.length n).bind (s.toList[·]?) with
    | some c => .ok (.type (.key (.integer c.toNat)))
    | none => .error { kind := "IndexError", message := "index out of range" }
  | none => .error (.type ("byte indices must be integers or slices, not " ++ index.sort))

def ofBytes (s : String) (index : Meaning) : Except Raised Meaning :=
  match index with
  | .slice parts => (fun cs => .bytes (String.ofList cs)) <$> slice s.toList parts
  | index => byteAt s index

def ofText (s : String) (index : Meaning) : Except Raised Meaning :=
  match index with
  | .slice parts => (fun cs => .ofText (String.ofList cs)) <$> slice s.toList parts
  | index => characterAt s index

end Wiring.Container.Indexing
