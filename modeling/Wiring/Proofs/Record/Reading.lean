import Mathlib.Data.List.Forall2
import Mathlib.Tactic.Lemma
import Wiring.Record.Declaration

/-!
What a reading that is accepted was made of, and codecs that read back whatever they write. A codec that never writes
null leaves null to mean that there is nothing.
-/

namespace Wiring

namespace Reading

variable {α β : Type} {f : α → β} {r : Reading α} {a : α} {b : β} {step : PathStep}

lemma map_eq_accepted : f <$> r = .accepted b ↔ ∃ a, r = .accepted a ∧ f a = b := by
  change (Reading.accepted f).both r = _ ↔ _
  cases r <;> simp [both, map]

lemma seq_eq_accepted {f : Reading (α → β)} :
    f <*> r = .accepted b ↔ ∃ g a, f = .accepted g ∧ r = .accepted a ∧ g a = b := by
  change f.both r = _ ↔ _
  cases f <;> cases r <;> simp [both, map]

lemma andThen_eq_accepted {f : α → Reading β} :
    andThen f r = .accepted b ↔ ∃ a, r = .accepted a ∧ f a = .accepted b := by
  cases r <;> simp [andThen]

@[simp] lemma map_accepted (f : α → β) (a : α) : f <$> Reading.accepted a = .accepted (f a) :=
  rfl

@[simp] lemma andThen_accepted (f : α → Reading β) (a : α) : andThen f (.accepted a) = f a :=
  rfl

@[simp] lemma under_eq_accepted : under step r = .accepted a ↔ r = .accepted a := by
  cases r <;> simp [under]

@[simp] lemma refuse_ne_accepted (kind : IssueKind) : refuse kind ≠ .accepted a :=
  nofun

end Reading

namespace Codec

section Shapes

variable {α : Type} {a : α} {name : String} {o : List (String × Json)} {j : Json}

@[simp] lemma record_object (build : List (String × Json) → Reading α) : record build (.object o) = build o :=
  rfl

lemma record_eq_accepted {build : List (String × Json) → Reading α} :
    record build j = .accepted a ↔ ∃ o, j = .object o ∧ build o = .accepted a := by
  cases j <;> simp [record]

variable [Codec α] {as : List α}

@[simp] lemma field_cons_self : (field name ((name, j) :: o) : Reading α) = .under (.field name) (decode j) := by
  simp [field, Assoc.find?]

@[simp] lemma field_cons_of_ne {key : String} (h : key ≠ name) :
    (field name ((key, j) :: o) : Reading α) = field name o := by
  simp [field, Assoc.find?, h]

@[simp] lemma fieldD_cons_self {default : α} :
    fieldD name default ((name, j) :: o) = .under (.field name) (decode j) := by
  simp [fieldD, Assoc.find?]

@[simp] lemma fieldD_cons_of_ne {key : String} (h : key ≠ name) {default : α} :
    fieldD name default ((key, j) :: o) = fieldD name default o := by
  simp [fieldD, Assoc.find?, h]

lemma field_eq_accepted : field name o = .accepted a ↔ ∃ j, Assoc.find? name o = some j ∧ decode j = .accepted a := by
  rw [field]
  cases Assoc.find? name o <;> simp

lemma fieldD_eq_accepted {default : α} : fieldD name default o = .accepted a ↔
    Assoc.find? name o = none ∧ default = a ∨ ∃ j, Assoc.find? name o = some j ∧ decode j = .accepted a := by
  rw [fieldD]
  cases Assoc.find? name o <;> simp

lemma decodeItems_eq_accepted {start : Nat} {items : List Json} :
    decodeItems start items = .accepted as ↔ List.Forall₂ (fun j a => decode j = .accepted a) items as := by
  induction items generalizing start as with
  | nil => cases as <;> simp [decodeItems]
  | cons j items ih =>
    rw [decodeItems, Reading.seq_eq_accepted]
    simp only [Reading.map_eq_accepted, Reading.under_eq_accepted, ih]
    cases as <;> simp

lemma decode_list_eq_accepted : decode j = .accepted as ↔
    ∃ items, j = .array items ∧ List.Forall₂ (fun j a => decode j = .accepted a) items as := by
  cases j with
  | array items =>
    simp only [Json.array.injEq, exists_eq_left']
    exact decodeItems_eq_accepted
  | _ => simp [decode]

lemma decode_option_of_ne_null (h : j ≠ .null) : (decode j : Reading (Option α)) = some <$> decode j := by
  cases j with
  | null => exact absurd rfl h
  | _ => rfl

end Shapes

class Faithful (α : Type) [Codec α] : Prop where
  decode_encode : ∀ a : α, decode (encode a) = .accepted a

class Solid (α : Type) [Codec α] : Prop where
  encode_ne_null : ∀ a : α, encode a ≠ .null

attribute [simp] Faithful.decode_encode

variable {α : Type} [Codec α]

lemma decode_encode_list {as : List α} (h : ∀ a ∈ as, decode (encode a) = .accepted a) :
    decode (encode as) = .accepted as :=
  decode_list_eq_accepted.2 ⟨_, rfl, List.forall₂_map_left_iff.2 (List.forall₂_same.2 h)⟩

instance [Faithful α] : Faithful (List α) where
  decode_encode _ := decode_encode_list fun a _ => Faithful.decode_encode a

instance [Faithful α] [Solid α] : Faithful (Option α) where
  decode_encode
    | none => rfl
    | some a => by
      change decode (encode a) = _
      rw [decode_option_of_ne_null (Solid.encode_ne_null a), Faithful.decode_encode, Reading.map_accepted]

instance : Faithful String where
  decode_encode _ := rfl

instance : Solid String where
  encode_ne_null _ := nofun

end Codec

namespace Record

open Codec

instance : Faithful Bool where
  decode_encode _ := rfl

instance : Faithful Int where
  decode_encode _ := rfl

instance {α : Type} [Named α] : Faithful α where
  decode_encode a := by simp [decode, encode, decodeNamed]

end Record

namespace TypeRef

open Codec

mutual

theorem decode_encode : (r : TypeRef) → decode (encode r) = .accepted r
  | ⟨p, n, as, v⟩ => by
    have hpackage : (Codec.decode (.string p) : Reading String) = .accepted p := rfl
    have hname : (Codec.decode (.string n) : Reading String) = .accepted n := rfl
    have hkind : (Codec.decode (.bool v) : Reading Bool) = .accepted v := rfl
    simp [encode, decode, decodeArguments, decodeTuple, decodeItems_encodeAll as 0, hpackage, hname, hkind]

theorem decodeItems_encodeAll : (rs : List TypeRef) → (start : Nat) → decodeItems start (encodeAll rs) = .accepted rs
  | [], _ => by rw [encodeAll, decodeItems]
  | r :: rs, start => by
    rw [encodeAll, decodeItems, decode_encode r, decodeItems_encodeAll rs (start + 1)]
    rfl

end

instance : Faithful TypeRef where
  decode_encode := decode_encode

instance : Solid TypeRef where
  encode_ne_null r := by
    cases r
    exact nofun

end TypeRef

end Wiring
