import Wiring.Proofs.Json.Text
import Wiring.Proofs.Record.RoundTrip

/-!
Records in texts. No record has a decimal in it or writes a name twice, so what a record writes is read from its text
whenever it is not nested too deep for one. A record may be: the owner that a member gets is nested deeper than the type
that it is taken from.
-/

namespace Wiring

open Codec

namespace Record

open Json (Plain AllPlain FieldsPlain)

class Textual (α : Type) [Codec α] : Prop where
  plain : ∀ a : α, (encode a).Plain

attribute [simp] Textual.plain

instance : Textual String where
  plain _ := trivial

instance : Textual Bool where
  plain _ := trivial

instance : Textual Int where
  plain _ := trivial

instance {α : Type} [Named α] : Textual α where
  plain _ := trivial

instance {α : Type} [Codec α] [Textual α] : Textual (List α) where
  plain as := by
    change AllPlain (as.map encode)
    induction as with
    | nil => trivial
    | cons a as ih => exact ⟨Textual.plain a, ih⟩

instance {α : Type} [Codec α] [Textual α] : Textual (Option α) where
  plain
    | none => trivial
    | some a => Textual.plain (α := α) a

instance : Textual (String × String) where
  plain _ := ⟨trivial, trivial, trivial⟩

mutual

lemma plain_encode : ∀ r : TypeRef, (TypeRef.encode r).Plain
  | ⟨p, n, as, v⟩ => by
    simp [TypeRef.encode, Plain, FieldsPlain, allPlain_encodeAll as]

lemma allPlain_encodeAll : ∀ rs : List TypeRef, AllPlain (TypeRef.encodeAll rs)
  | [] => trivial
  | r :: rs => ⟨plain_encode r, allPlain_encodeAll rs⟩

end

instance : Textual TypeRef where
  plain := plain_encode

lemma plain_object {fs : List (String × Json)} (hnames : (fs.map Prod.fst).Nodup) (hfs : ∀ f ∈ fs, f.2.Plain) :
    Plain (.object fs) := by
  refine ⟨hnames, ?_⟩
  clear hnames
  induction fs with
  | nil => trivial
  | cons f fs ih => exact ⟨hfs f List.mem_cons_self, ih fun g hg => hfs g (List.mem_cons_of_mem f hg)⟩

instance : Textual SourceLocation where
  plain _ := plain_object (by simp) (by simp)

instance : Textual Annotation where
  plain _ := plain_object (by simp) (by simp)

instance : Textual Parameter where
  plain _ := plain_object (by simp) (by simp)

instance : Textual MemberDeclaration where
  plain _ := plain_object (by simp) (by simp)

instance : Textual TypeBound where
  plain _ := plain_object (by simp) (by simp)

instance : Textual TypeDeclaration where
  plain _ := plain_object (by simp) (by simp)

instance : Textual DeclarationSet where
  plain _ := plain_object (by simp) (by simp)

instance : Textual InitializerParameter where
  plain _ := plain_object (by simp) (by simp)

instance : Textual InitializerPlan where
  plain _ := plain_object (by simp) (by simp)

instance : Textual InterfacePlan where
  plain _ := plain_object (by simp) (by simp)

instance : Textual ServiceEntry where
  plain _ := plain_object (by simp) (by simp)

instance : Textual DependencyEdge where
  plain _ := plain_object (by simp) (by simp)

instance : Textual RegistrationGraph where
  plain _ := plain_object (by simp) (by simp)

instance : Textual SourceUnit where
  plain _ := plain_object (by simp) (by simp)

instance : Textual Diagnostic where
  plain _ := plain_object (by simp) (by simp)

instance : Textual DiagnosticDescriptor where
  plain _ := plain_object (by simp) (by simp)

instance : Textual GenerationResult where
  plain _ := plain_object (by simp) (by simp)

end Record

namespace RecordKind

instance : (k : RecordKind) → Record.Textual k.type
  | .typeRef => inferInstanceAs (Record.Textual TypeRef)
  | .location => inferInstanceAs (Record.Textual SourceLocation)
  | .mark => inferInstanceAs (Record.Textual Annotation)
  | .parameter => inferInstanceAs (Record.Textual Parameter)
  | .member => inferInstanceAs (Record.Textual MemberDeclaration)
  | .bound => inferInstanceAs (Record.Textual TypeBound)
  | .declaration => inferInstanceAs (Record.Textual TypeDeclaration)
  | .declarationSet => inferInstanceAs (Record.Textual DeclarationSet)
  | .service => inferInstanceAs (Record.Textual ServiceEntry)
  | .edge => inferInstanceAs (Record.Textual DependencyEdge)
  | .graph => inferInstanceAs (Record.Textual RegistrationGraph)
  | .diagnostic => inferInstanceAs (Record.Textual Diagnostic)
  | .descriptor => inferInstanceAs (Record.Textual DiagnosticDescriptor)
  | .initializerParameter => inferInstanceAs (Record.Textual InitializerParameter)
  | .initializer => inferInstanceAs (Record.Textual InitializerPlan)
  | .interface => inferInstanceAs (Record.Textual InterfacePlan)
  | .unit => inferInstanceAs (Record.Textual SourceUnit)
  | .result => inferInstanceAs (Record.Textual GenerationResult)

theorem decodeText_text (k : RecordKind) {j : Json} {x : k.type} (h : decode j = .accepted x) :
    decodeText (encode x).text = if (encode x).fits nesting then Reading.accepted x else .refuse .notADocument := by
  rw [decodeText, Json.parse?_text (Record.Textual.plain x)]
  by_cases hfits : (encode x).fits nesting
  · simp only [hfits, if_true]
    exact k.decode_encode h
  · simp only [hfits, Bool.false_eq_true, if_false]

end RecordKind

namespace Crates

def crate : Nat → TypeRef
  | 0 => .mk "yard" "Crate" [] false
  | n + 1 => .mk "yard" "Crate" [crate n] false

def yard (ref : TypeRef) : Json :=
  .object [("types", .array [.object [("ref", encode ref),
    ("members", .array [.object [("name", .string "weight"), ("type", encode (crate 0))]])]])]

def stored (ref : TypeRef) : DeclarationSet where
  types := [{ ref, members := [{ name := "weight", type := crate 0, owner := some ref }] }]
  keys_nodup := List.pairwise_singleton _ _

set_option maxRecDepth 8000 in
lemma decode_yard : decode (yard (crate 98)) = .accepted (stored (crate 98)) := by
  rfl

lemma plain_yard (ref : TypeRef) : (yard ref).Plain := by
  simp [yard, Json.Plain, Json.AllPlain, Json.FieldsPlain]

example : decodeText (yard (crate 98)).text = .accepted (stored (crate 98)) ∧
    (decodeText (encode (stored (crate 98))).text : Reading DeclarationSet) = .refuse .notADocument := by
  have hfits : (yard (crate 98)).fits nesting = true := by decide +kernel
  have hdeep : (encode (stored (crate 98))).fits nesting = false := by decide +kernel
  constructor
  · rw [decodeText, Json.parse?_text (plain_yard _), hfits]
    exact decode_yard
  · have htext := RecordKind.decodeText_text .declarationSet decode_yard
    exact htext.trans (if_neg (hdeep ▸ Bool.false_ne_true))

end Crates

end Wiring
