import Wiring.Proofs.Assoc
import Wiring.Proofs.Record.Reading
import Wiring.Record.Plan

/-!
Records survive being written. What was read from a document is read again, the same in every field, from the document
that it writes. Declared types take this from their members, which all have an owner once they are read.
-/

namespace Wiring

open Codec

namespace Record

instance : Faithful SourceLocation where
  decode_encode l := by
    change record _ (.object _) = _
    simp

instance : Solid SourceLocation where
  encode_ne_null _ := nofun

instance : Faithful Annotation where
  decode_encode a := by
    change record _ (.object _) = _
    simp

instance : Faithful Parameter where
  decode_encode p := by
    change record _ (.object _) = _
    simp

instance : Faithful MemberDeclaration where
  decode_encode m := by
    change record _ (.object _) = _
    simp

instance : Faithful TypeBound where
  decode_encode b := by
    change record _ (.object _) = _
    simp

instance : Faithful (String × String) where
  decode_encode _ := rfl

instance : Faithful InitializerParameter where
  decode_encode p := by
    change record _ (.object _) = _
    simp

instance : Faithful InitializerPlan where
  decode_encode p := by
    change record _ (.object _) = _
    simp

instance : Faithful InterfacePlan where
  decode_encode p := by
    change record _ (.object _) = _
    simp

instance : Faithful ServiceEntry where
  decode_encode e := by
    change record _ (.object _) = _
    simp

instance : Faithful DependencyEdge where
  decode_encode e := by
    change record _ (.object _) = _
    simp

instance : Faithful RegistrationGraph where
  decode_encode g := by
    change record _ (.object _) = _
    simp

instance : Faithful SourceUnit where
  decode_encode u := by
    change record _ (.object _) = _
    simp

instance : Faithful Diagnostic where
  decode_encode d := by
    change record _ (.object _) = _
    simp

instance : Faithful DiagnosticDescriptor where
  decode_encode d := by
    change record _ (.object _) = _
    simp

instance : Faithful GenerationResult where
  decode_encode r := by
    change record _ (.object _) = _
    simp

end Record

namespace DeclarationSet

lemma firstRepeat_eq_none {ts : List TypeDeclaration} {seen : List TypeKey}
    (hts : (ts.map TypeDeclaration.key).Nodup) (hseen : ∀ d ∈ ts, d.key ∉ seen) : firstRepeat seen ts = none := by
  induction ts generalizing seen with
  | nil => rfl
  | cons d ts ih =>
    rw [List.map_cons, List.nodup_cons] at hts
    rw [firstRepeat, if_neg (hseen d List.mem_cons_self)]
    apply ih hts.2
    intro e he
    have hne : e.key ≠ d.key := fun h => hts.1 (h ▸ List.mem_map_of_mem he)
    exact List.not_mem_cons_of_ne_of_not_mem hne (hseen e (List.mem_cons_of_mem d he))

lemma ofTypes_types (s : DeclarationSet) : ofTypes s.types = .ok s := by
  have h : firstRepeat [] s.types = none := firstRepeat_eq_none s.keys_nodup fun _ _ => List.not_mem_nil
  rw [ofTypes]
  split
  · rename_i d hd
    rw [h] at hd
    contradiction
  · rfl

lemma types_of_ofTypes {s : DeclarationSet} {ts : List TypeDeclaration} (h : ofTypes ts = .ok s) : s.types = ts := by
  rw [ofTypes] at h
  split at h
  · contradiction
  · obtain rfl := Except.ok.inj h
    rfl

end DeclarationSet

namespace Record

section Attached

variable {j : Json} {o o' : List (String × Json)} {owner : TypeRef} {m : MemberDeclaration} {d : TypeDeclaration}

lemma encode_member (m : MemberDeclaration) :
    ∃ o, encode m = .object o ∧ Assoc.find? "owner" o = some (encode m.owner) :=
  ⟨_, rfl, rfl⟩

lemma withOwner_encode (h : m.owner ≠ none) : withOwner owner (encode m) = encode m := by
  obtain ⟨o, ho, hfind⟩ := encode_member m
  obtain ⟨given, hgiven⟩ := Option.ne_none_iff_exists'.1 h
  have hnull : encode m.owner ≠ .null := hgiven ▸ Solid.encode_ne_null given
  rw [ho, withOwner, hfind]
  split
  · contradiction
  · rename_i hj
    exact absurd (Option.some.inj hj) hnull
  · rfl

lemma encode_declaration (d : TypeDeclaration) : ∃ o, encode d = .object o ∧ typeDeclaration o = .accepted d ∧
    Assoc.find? "ref" o = some (encode d.ref) ∧ Assoc.find? "members" o = some (.array (d.members.map encode)) ∧
    Assoc.put "members" (.array (d.members.map encode)) o = o := by
  refine ⟨_, rfl, ?_, rfl, rfl, rfl⟩
  simp [typeDeclaration]

theorem decode_encode_declaration (h : ∀ m ∈ d.members, m.owner ≠ none) : decode (encode d) = .accepted d := by
  obtain ⟨o, ho, hread, href, hmembers, hput⟩ := encode_declaration d
  have howners : (d.members.map encode).map (withOwner d.ref) = d.members.map encode := by
    rw [List.map_map]
    exact List.map_congr_left fun m hm => withOwner_encode (h m hm)
  have hattached : attachOwners o = .accepted o := by
    rw [attachOwners, href, hmembers]
    split
    · contradiction
    · rename_i hnull
      exact absurd (Option.some.inj hnull) (Solid.encode_ne_null d.ref)
    · contradiction
    · rename_i ref members _ hr hm
      obtain rfl := Option.some.inj hr
      obtain rfl := Option.some.inj hm
      split
      · simp only [Faithful.decode_encode, Reading.andThen_accepted, membersOf?, howners, hput]
      · rfl
  rw [ho]
  change Reading.andThen typeDeclaration (attachOwners o) = _
  rw [hattached, Reading.andThen_accepted, hread]

theorem decode_encode_set {s : DeclarationSet} (h : ∀ d ∈ s.types, ∀ m ∈ d.members, m.owner ≠ none) :
    decode (encode s) = .accepted s := by
  have htypes : decode (encode s.types) = .accepted s.types :=
    decode_encode_list fun d hd => decode_encode_declaration (h d hd)
  change Reading.andThen declarationSet (fieldD "types" [] [("types", encode s.types)]) = _
  rw [fieldD_cons_self, htypes, Reading.under_accepted, Reading.andThen_accepted, declarationSet,
    DeclarationSet.ofTypes_types]

lemma owner_of_decode (h : decode (.object o) = .accepted m) : fieldD "owner" none o = .accepted m.owner := by
  change record _ (.object o) = _ at h
  simp only [record_object, Reading.seq_eq_accepted, Reading.map_eq_accepted, exists_and_left,
    exists_exists_and_eq_and, exists_exists_and_exists_and_eq_and, ↓existsAndEq, and_true] at h
  grind

lemma fields_of_typeDeclaration (h : typeDeclaration o = .accepted d) :
    field "ref" o = .accepted d.ref ∧ fieldD "members" [] o = .accepted d.members := by
  simp only [typeDeclaration, Reading.seq_eq_accepted, Reading.map_eq_accepted, exists_and_left,
    exists_exists_and_eq_and, exists_exists_and_exists_and_eq_and, ↓existsAndEq, and_true] at h
  grind

def OwnerFrom (owner : TypeRef) (item : Json) (m : MemberDeclaration) : Prop :=
  ∃ given : Option TypeRef, decode (item.getD "owner") = .accepted given ∧ m.owner = some (given.getD owner)

lemma ownerFrom_of_put {item : Json} (hitem : item.getD "owner" = .null)
    (h : decode (.object (Assoc.put "owner" (encode owner) o)) = .accepted m) : OwnerFrom owner item m := by
  have hread : (decode (encode owner) : Reading (Option TypeRef)) = .accepted (some owner) :=
    Faithful.decode_encode (some owner)
  have howner := owner_of_decode h
  rw [fieldD, Assoc.find?_put_self] at howner
  dsimp only at howner
  rw [hread, Reading.under_accepted] at howner
  exact ⟨none, hitem ▸ rfl, (Reading.accepted.inj howner).symm⟩

lemma ownerFrom_of_decode_withOwner {item : Json} (h : decode (withOwner owner item) = .accepted m) :
    OwnerFrom owner item m := by
  cases item with
  | object o =>
    rw [withOwner] at h
    split at h
    · rename_i hfind
      apply ownerFrom_of_put _ h
      rw [Json.getD, Json.get?, hfind, Option.getD_none]
    · rename_i hfind
      apply ownerFrom_of_put _ h
      rw [Json.getD, Json.get?, hfind, Option.getD_some]
    · rename_i j hnull hfind
      have howner := owner_of_decode h
      rw [fieldD, hfind] at howner
      dsimp only at howner
      rw [Reading.under_eq_accepted, decode_option_of_ne_null hnull, Reading.map_eq_accepted] at howner
      obtain ⟨given, hgiven, hm⟩ := howner
      refine ⟨some given, ?_, hm.symm⟩
      rw [Json.getD, Json.get?, hfind, Option.getD_some, decode_option_of_ne_null hnull, hgiven, Reading.map_accepted]
  | _ =>
    obtain ⟨o, ho, -⟩ := record_eq_accepted.1 h
    cases ho

def OwnersFrom (j : Json) (d : TypeDeclaration) : Prop :=
  ∃ items, (j.get? "members").getD (.array []) = .array items ∧ List.Forall₂ (OwnerFrom d.ref) items d.members

lemma membersOf?_eq_some {items : List Json} (h : membersOf? j = some items) :
    j = .array items ∨ (items = [] → j.isTruthy = false) ∧ ∀ item ∈ items, ∃ s, item = .string s := by
  cases j with
  | array _ => exact .inl (congrArg Json.array (Option.some.inj h))
  | string s =>
    obtain rfl := Option.some.inj h
    refine .inr ⟨fun hs => ?_, fun item hitem => ?_⟩
    · simpa [Json.isTruthy] using hs
    · obtain ⟨c, -, rfl⟩ := List.mem_map.1 hitem
      exact ⟨_, rfl⟩
  | object fields =>
    obtain rfl := Option.some.inj h
    refine .inr ⟨fun hfields => ?_, fun item hitem => ?_⟩
    · simpa [Json.isTruthy] using hfields
    · obtain ⟨f, -, rfl⟩ := List.mem_map.1 hitem
      exact ⟨_, rfl⟩
  | _ => exact nomatch h

lemma array_of_membersOf? {items : List Json} {ms : List MemberDeclaration} (h : membersOf? j = some items)
    (hj : j.isTruthy) (hms : List.Forall₂ (fun item m => decode (withOwner owner item) = .accepted m) items ms) :
    j = .array items := by
  obtain harray | ⟨hempty, htexts⟩ := membersOf?_eq_some h
  · exact harray
  · cases hms with
    | nil =>
      rw [hempty rfl] at hj
      contradiction
    | cons hm _ =>
      obtain ⟨s, rfl⟩ := htexts _ List.mem_cons_self
      exact nomatch hm

lemma ownersFrom_of_falsy (hfalsy : ∀ j, Assoc.find? "members" o = some j → j.isTruthy = false)
    (h : fieldD "members" [] o = .accepted d.members) : OwnersFrom (.object o) d := by
  obtain ⟨hnone, hempty⟩ | ⟨j, hj, hread⟩ := fieldD_eq_accepted.1 h
  · refine ⟨[], ?_, hempty ▸ .nil⟩
    rw [Json.get?, hnone, Option.getD_none]
  · obtain ⟨items, rfl, hitems⟩ := decode_list_eq_accepted.1 hread
    refine ⟨items, by rw [Json.get?, hj, Option.getD_some], ?_⟩
    obtain rfl : items = [] := by simpa [Json.isTruthy] using hfalsy _ hj
    rw [List.forall₂_nil_left_iff] at hitems ⊢
    exact hitems

lemma ownersFrom_of_attached {members : Json} {items : List Json} (hfind : Assoc.find? "members" o = some members)
    (htruthy : members.isTruthy) (hitems : membersOf? members = some items)
    (h : fieldD "members" [] (Assoc.put "members" (.array (items.map (withOwner d.ref))) o) = .accepted d.members) :
    OwnersFrom (.object o) d := by
  rw [fieldD, Assoc.find?_put_self] at h
  obtain ⟨_, harray, hread⟩ := decode_list_eq_accepted.1 (Reading.under_eq_accepted.1 h)
  obtain rfl := Json.array.inj harray
  rw [List.forall₂_map_left_iff] at hread
  refine ⟨items, ?_, hread.imp fun _ _ => ownerFrom_of_decode_withOwner⟩
  rw [Json.get?, hfind, Option.getD_some, array_of_membersOf? hitems htruthy hread]

lemma ownersFrom_of_attachOwners (h : attachOwners o = .accepted o') (href : field "ref" o' = .accepted d.ref)
    (hmembers : fieldD "members" [] o' = .accepted d.members) : OwnersFrom (.object o) d := by
  obtain ⟨r, hr, hread⟩ := field_eq_accepted.1 href
  rw [attachOwners] at h
  split at h
  · rename_i hnone
    obtain rfl := Reading.accepted.inj h
    exact nomatch hr.symm.trans hnone
  · rename_i hnull
    obtain rfl := Reading.accepted.inj h
    obtain rfl := Option.some.inj (hr.symm.trans hnull)
    exact nomatch hread
  · rename_i hnone _ _
    obtain rfl := Reading.accepted.inj h
    exact ownersFrom_of_falsy (fun j hj => nomatch hj.symm.trans hnone) hmembers
  · rename_i ref members _ hfind hfindMembers
    split at h
    · rename_i htruthy
      obtain ⟨owner, howner, h⟩ := Reading.andThen_eq_accepted.1 h
      split at h
      · contradiction
      · rename_i items hitems
        obtain rfl := Reading.accepted.inj h
        rw [Assoc.find?_put_of_ne (by decide), hfind] at hr
        obtain rfl := Option.some.inj hr
        obtain rfl : owner = d.ref := Reading.accepted.inj (howner.symm.trans hread)
        exact ownersFrom_of_attached hfindMembers htruthy hitems hmembers
    · rename_i hfalsy
      obtain rfl := Reading.accepted.inj h
      apply ownersFrom_of_falsy _ hmembers
      intro j hj
      obtain rfl := Option.some.inj (hfindMembers.symm.trans hj)
      exact Bool.not_eq_true _ ▸ hfalsy

theorem ownersFrom_of_decode (h : decode j = .accepted d) : OwnersFrom j d := by
  obtain ⟨o, rfl, hd⟩ := record_eq_accepted.1 h
  obtain ⟨o', hattached, hd⟩ := Reading.andThen_eq_accepted.1 hd
  obtain ⟨href, hmembers⟩ := fields_of_typeDeclaration hd
  exact ownersFrom_of_attachOwners hattached href hmembers

lemma OwnersFrom.owner_ne_none (h : OwnersFrom j d) : ∀ m ∈ d.members, m.owner ≠ none := by
  obtain ⟨items, -, hitems⟩ := h
  have howned : List.Forall₂ (fun m item => m.owner ≠ none ∧ OwnerFrom d.ref item m) d.members items := by
    refine hitems.flip.imp fun m item hm => ⟨?_, hm⟩
    obtain ⟨given, -, howner⟩ := hm
    exact howner ▸ Option.some_ne_none _
  exact ((List.forall₂_and_left _ _).1 howned).1

def SetOwnersFrom (j : Json) (s : DeclarationSet) : Prop :=
  ∃ items, (j.get? "types").getD (.array []) = .array items ∧ List.Forall₂ OwnersFrom items s.types

theorem setOwnersFrom_of_decode {s : DeclarationSet} (h : decode j = .accepted s) : SetOwnersFrom j s := by
  obtain ⟨o, rfl, hs⟩ := record_eq_accepted.1 h
  obtain ⟨types, htypes, hs⟩ := Reading.andThen_eq_accepted.1 hs
  obtain rfl : types = s.types := by
    rw [declarationSet] at hs
    split at hs
    · rename_i s' hs'
      obtain rfl := Reading.accepted.inj hs
      exact (DeclarationSet.types_of_ofTypes hs').symm
    · contradiction
  rw [SetOwnersFrom, Json.get?]
  obtain ⟨hnone, hempty⟩ | ⟨j, hj, hread⟩ := fieldD_eq_accepted.1 htypes
  · refine ⟨[], ?_, hempty ▸ .nil⟩
    rw [hnone, Option.getD_none]
  · obtain ⟨items, rfl, hitems⟩ := decode_list_eq_accepted.1 hread
    refine ⟨items, ?_, hitems.imp fun _ _ => ownersFrom_of_decode⟩
    rw [hj, Option.getD_some]

lemma SetOwnersFrom.owner_ne_none {s : DeclarationSet} (h : SetOwnersFrom j s) :
    ∀ d ∈ s.types, ∀ m ∈ d.members, m.owner ≠ none := by
  obtain ⟨items, -, hitems⟩ := h
  have howned : List.Forall₂ (fun d item => (∀ m ∈ d.members, m.owner ≠ none) ∧ OwnersFrom item d) s.types items :=
    hitems.flip.imp fun d item hd => ⟨OwnersFrom.owner_ne_none hd, hd⟩
  exact ((List.forall₂_and_left _ _).1 howned).1

end Attached

end Record

inductive RecordKind where
  | typeRef
  | location
  | mark
  | parameter
  | member
  | bound
  | declaration
  | declarationSet
  | service
  | edge
  | graph
  | diagnostic
  | descriptor
  | initializerParameter
  | initializer
  | interface
  | unit
  | result

namespace RecordKind

def type : RecordKind → Type
  | .typeRef => TypeRef
  | .location => SourceLocation
  | .mark => Annotation
  | .parameter => Parameter
  | .member => MemberDeclaration
  | .bound => TypeBound
  | .declaration => TypeDeclaration
  | .declarationSet => DeclarationSet
  | .service => ServiceEntry
  | .edge => DependencyEdge
  | .graph => RegistrationGraph
  | .diagnostic => Diagnostic
  | .descriptor => DiagnosticDescriptor
  | .initializerParameter => InitializerParameter
  | .initializer => InitializerPlan
  | .interface => InterfacePlan
  | .unit => SourceUnit
  | .result => GenerationResult

instance : (k : RecordKind) → Codec k.type
  | .typeRef => inferInstanceAs (Codec TypeRef)
  | .location => inferInstanceAs (Codec SourceLocation)
  | .mark => inferInstanceAs (Codec Annotation)
  | .parameter => inferInstanceAs (Codec Parameter)
  | .member => inferInstanceAs (Codec MemberDeclaration)
  | .bound => inferInstanceAs (Codec TypeBound)
  | .declaration => inferInstanceAs (Codec TypeDeclaration)
  | .declarationSet => inferInstanceAs (Codec DeclarationSet)
  | .service => inferInstanceAs (Codec ServiceEntry)
  | .edge => inferInstanceAs (Codec DependencyEdge)
  | .graph => inferInstanceAs (Codec RegistrationGraph)
  | .diagnostic => inferInstanceAs (Codec Diagnostic)
  | .descriptor => inferInstanceAs (Codec DiagnosticDescriptor)
  | .initializerParameter => inferInstanceAs (Codec InitializerParameter)
  | .initializer => inferInstanceAs (Codec InitializerPlan)
  | .interface => inferInstanceAs (Codec InterfacePlan)
  | .unit => inferInstanceAs (Codec SourceUnit)
  | .result => inferInstanceAs (Codec GenerationResult)

/-- Where a document says who owns the members that a record holds, they are owned as it says. -/
def Owned : (k : RecordKind) → Json → k.type → Prop
  | .declaration => Record.OwnersFrom
  | .declarationSet => Record.SetOwnersFrom
  | _ => fun _ _ => True

variable {j : Json}

lemma owned_of_decode (k : RecordKind) {x : k.type} (h : decode j = .accepted x) : k.Owned j x := by
  cases k with
  | declaration => exact Record.ownersFrom_of_decode h
  | declarationSet => exact Record.setOwnersFrom_of_decode h
  | _ => trivial

lemma decode_encode (k : RecordKind) {x : k.type} (h : decode j = .accepted x) : decode (encode x) = .accepted x := by
  cases k with
  | declaration => exact Record.decode_encode_declaration (Record.ownersFrom_of_decode h).owner_ne_none
  | declarationSet => exact Record.decode_encode_set (Record.setOwnersFrom_of_decode h).owner_ne_none
  | typeRef => exact @Faithful.decode_encode TypeRef _ _ x
  | location => exact @Faithful.decode_encode SourceLocation _ _ x
  | mark => exact @Faithful.decode_encode Annotation _ _ x
  | parameter => exact @Faithful.decode_encode Parameter _ _ x
  | member => exact @Faithful.decode_encode MemberDeclaration _ _ x
  | bound => exact @Faithful.decode_encode TypeBound _ _ x
  | service => exact @Faithful.decode_encode ServiceEntry _ _ x
  | edge => exact @Faithful.decode_encode DependencyEdge _ _ x
  | graph => exact @Faithful.decode_encode RegistrationGraph _ _ x
  | diagnostic => exact @Faithful.decode_encode Diagnostic _ _ x
  | descriptor => exact @Faithful.decode_encode DiagnosticDescriptor _ _ x
  | initializerParameter => exact @Faithful.decode_encode InitializerParameter _ _ x
  | initializer => exact @Faithful.decode_encode InitializerPlan _ _ x
  | interface => exact @Faithful.decode_encode InterfacePlan _ _ x
  | unit => exact @Faithful.decode_encode SourceUnit _ _ x
  | result => exact @Faithful.decode_encode GenerationResult _ _ x

/-- A record that was read is read again from the document that it writes, the same in every field. -/
theorem decode_encode_of_decode (k : RecordKind) {j : Json} {x : k.type} (h : decode j = .accepted x) :
    decode (encode x) = .accepted x ∧ k.Owned j x :=
  ⟨k.decode_encode h, k.owned_of_decode h⟩

end RecordKind

namespace Parcels

def document : Json :=
  .object [("ref", .object [("name", .string "Parcel"), ("namespace", .string "post")]),
    ("is_interface", .string "No"),
    ("members", .array [
      .object [("name", .string "weight"), ("type", .object [("name", .string "float")]), ("owner", .null),
        ("location", .object [("path", .string "post.py"), ("line", .string " 12 ")])],
      .object [("name", .string "_clock"), ("type", .object [("name", .string "IClock")]), ("is_static", .integer 1),
        ("owner", .object [("name", .string "Item")])]])]

def parcel : TypeDeclaration where
  ref := .mk "post" "Parcel" [] false
  members := [
    { name := "weight"
      type := .mk "" "float" [] false
      owner := some (.mk "post" "Parcel" [] false)
      location := some { path := "post.py", line := 12 } },
    { name := "_clock"
      type := .mk "" "IClock" [] false
      isStatic := true
      owner := some (.mk "" "Item" [] false) }]

theorem parcel_survives : (decode document : Reading TypeDeclaration) = .accepted parcel ∧
    decode (encode parcel) = .accepted parcel ∧ Record.OwnersFrom document parcel := by
  have h : (decode document : Reading TypeDeclaration) = .accepted parcel := by rfl
  exact ⟨h, RecordKind.decode_encode_of_decode .declaration h⟩

end Parcels

end Wiring
