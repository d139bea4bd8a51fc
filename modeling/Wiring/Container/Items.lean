import Wiring.Container.Indexing

/-!
What collections hold: running through them item by item, and keeping each item or each key once.
-/

namespace Wiring.Container.Items

def areEqual (a b : Meaning) : Bool :=
  a.asType.identity = b.asType.identity

def ofByte (c : Char) : Meaning :=
  .type (.key (.integer c.toNat))

def ofMeaning (m : Meaning) : Except Raised (List Meaning) :=
  match m with
  | .items _ ms | .dictionary ms _ => .ok ms
  | .iterator _ _ ms => ms
  | .bytes content => .ok (content.toList.map ofByte)
  | .type (.key (.string s)) => .ok (s.toList.map fun c => .ofText (String.singleton c))
  | .type t@(.closed c _) =>
    if TypeExpr.isPlainAlias c then .ok [.thing "types.GenericAlias" none ("*" ++ t.keyText)]
    else .ok [.type (.closed (TypeExpr.formHead "Unpack") [t])]
  | .type t@(.written ..) => .ok [.type (.closed (TypeExpr.formHead "Unpack") [t])]
  | m => .error (.type ("'" ++ m.sort ++ "' object is not iterable"))

def spread (m : Meaning) : Except Raised (List Meaning) :=
  -- What fails only when it is run through fails as it does there.
  match m with
  | .iterator _ _ ms => ms
  | m => (ofMeaning m).mapError fun _ => .type ("Value after * must be an iterable, not " ++ m.sort)

def checkKeys (ms : List Meaning) : Except Raised Unit :=
  match TypeExpr.anyUnkeyable? (ms.map Meaning.asType) with
  | some sort => .error (.type ("unhashable type: '" ++ sort ++ "'"))
  | none => .ok ()

def isAmong (ms : List Meaning) (m : Meaning) : Bool :=
  ms.any (areEqual m)

def distinct (ms : List Meaning) : Except Raised (List Meaning) := do
  checkKeys ms
  return ms.foldl (fun seen m => if isAmong seen m then seen else seen ++ [m]) []

def asSet (ms : List Meaning) : Except Raised Meaning := do
  let ms ← distinct ms
  let places := (List.range 8).map fun (i : Nat) => Meaning.type (.key (.integer i))
  return .items .set (if ms.all (isAmong places) then places.filterMap fun p => ms.find? (areEqual p) else ms)

def lookUp? (entries : List (Meaning × Meaning)) (key : Meaning) : Option Meaning :=
  (entries.reverse.find? fun e => areEqual key e.1).map Prod.snd

def dictionary (entries : List (Meaning × Meaning)) : Except Raised Meaning := do
  let keys ← distinct (entries.map Prod.fst)
  return .dictionary keys (keys.filterMap (lookUp? entries))

def missingKey (key : Meaning) : Raised where
  kind := "KeyError"
  message := key.text

def under (keys values : List Meaning) (key : Meaning) : Except Raised Meaning := do
  checkKeys [key]
  match lookUp? (keys.zip values) key with
  | some m => return m
  | none => throw (missingKey key)

def combine? (operator : String) (a b : List Meaning) : Option (List Meaning) :=
  let without (a b : List Meaning) : List Meaning := a.filter (!isAmong b ·)
  match operator with
  | "|" => some (a ++ without b a)
  | "&" => some (a.filter (isAmong b))
  | "-" => some (without a b)
  | "^" => some (without a b ++ without b a)
  | _ => none

end Wiring.Container.Items
