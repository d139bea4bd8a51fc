import Wiring.Assoc
import Wiring.Double

/-!
Document values. Whole numbers and decimals stay apart, since a record may take `1` where it refuses `1.5`, and
the fields of an object keep their order.
-/

namespace Wiring

inductive Json where
  | null
  | bool (value : Bool)
  | integer (value : Int)
  | decimal (value : Double)
  | string (value : String)
  | array (items : List Json)
  | object (fields : List (String × Json))
  deriving Inhabited

namespace Json

mutual

def decEq : (a b : Json) → Decidable (a = b)
  | .null, .null => isTrue rfl
  | .bool a, .bool b => decidable_of_iff (a = b) (by simp)
  | .integer a, .integer b => decidable_of_iff (a = b) (by simp)
  | .decimal a, .decimal b => decidable_of_iff (a = b) (by simp)
  | .string a, .string b => decidable_of_iff (a = b) (by simp)
  | .array a, .array b =>
    match decEqItems a b with
    | isTrue h => isTrue (by rw [h])
    | isFalse h => isFalse (by simpa using h)
  | .object a, .object b =>
    match decEqFields a b with
    | isTrue h => isTrue (by rw [h])
    | isFalse h => isFalse (by simpa using h)
  | .null, .bool _ | .null, .integer _ | .null, .decimal _ | .null, .string _ | .null, .array _
  | .null, .object _ | .bool _, .null | .bool _, .integer _ | .bool _, .decimal _ | .bool _, .string _
  | .bool _, .array _ | .bool _, .object _ | .integer _, .null | .integer _, .bool _
  | .integer _, .decimal _ | .integer _, .string _ | .integer _, .array _ | .integer _, .object _
  | .decimal _, .null | .decimal _, .bool _ | .decimal _, .integer _ | .decimal _, .string _
  | .decimal _, .array _ | .decimal _, .object _ | .string _, .null | .string _, .bool _
  | .string _, .integer _ | .string _, .decimal _ | .string _, .array _ | .string _, .object _
  | .array _, .null | .array _, .bool _ | .array _, .integer _ | .array _, .decimal _
  | .array _, .string _ | .array _, .object _ | .object _, .null | .object _, .bool _
  | .object _, .integer _ | .object _, .decimal _ | .object _, .string _ | .object _, .array _ =>
    isFalse (by simp)

def decEqItems : (a b : List Json) → Decidable (a = b)
  | [], [] => isTrue rfl
  | [], _ :: _ | _ :: _, [] => isFalse (by simp)
  | x :: r, y :: s =>
    match decEq x y, decEqItems r s with
    | isTrue h, isTrue k => isTrue (by rw [h, k])
    | isFalse h, _ => isFalse (by simp [h])
    | _, isFalse k => isFalse (by simp [k])

def decEqFields : (a b : List (String × Json)) → Decidable (a = b)
  | [], [] => isTrue rfl
  | [], _ :: _ | _ :: _, [] => isFalse (by simp)
  | (k, x) :: r, (l, y) :: s =>
    match decEq x y, decEqFields r s with
    | isTrue h, isTrue h' => decidable_of_iff (k = l) (by simp [h, h'])
    | isFalse h, _ => isFalse (by simp [h])
    | _, isFalse h => isFalse (by simp [h])

end

instance : DecidableEq Json := decEq

def get? (name : String) : Json → Option Json
  | .object fields => Assoc.find? name fields
  | _ => none

def getD (name : String) (j : Json) : Json :=
  (j.get? name).getD .null

def isTruthy : Json → Bool
  | .null => false
  | .bool b => b
  | .integer n => n != 0
  | .decimal d => !d.isZero
  | .string s => s != ""
  | .array items => !items.isEmpty
  | .object fields => !fields.isEmpty

def identity : Json → Json
  | .bool b => .integer b.toInt
  | .decimal d =>
    match d.whole? with
    | some n => .integer n
    | none => .decimal d
  | j => j

def unkeyable? : Json → Option String
  | .array _ => some "list"
  | .object _ => some "dict"
  | _ => none

def ofOption {α : Type} (f : α → Json) : Option α → Json
  | none => .null
  | some a => f a

def strings (ss : List String) : Json :=
  .array (ss.map .string)

def ofNat (n : Nat) : Json :=
  .integer n

end Json

end Wiring
