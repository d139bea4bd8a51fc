import Wiring.Proofs.Unit.Names

/-!
Texts by which references and members are compared. A text can be read in one way only: names end where the first mark
stands, what brackets hold ends with the bracket that closes it, and a type in a signature is followed by a name.
-/

namespace Wiring

namespace Text

def Stops (marks : List Char) (cs : List Char) : Prop :=
  ∀ c ∈ cs.head?, c ∈ marks

variable {marks cs cs' ds ds' : List Char} {close : Char}

@[simp] lemma stops_nil (marks : List Char) : Stops marks [] :=
  fun _ h => by cases h

@[simp] lemma stops_cons {c : Char} : Stops marks (c :: cs) ↔ c ∈ marks := by
  simp [Stops]

lemma append_inj_of_stops (hcs : ∀ c ∈ cs, c ∉ marks) (hcs' : ∀ c ∈ cs', c ∉ marks) (hds : Stops marks ds)
    (hds' : Stops marks ds') (h : cs ++ ds = cs' ++ ds') : cs = cs' ∧ ds = ds' := by
  induction cs generalizing cs' with
  | nil =>
    cases cs' with
    | nil => exact ⟨rfl, h⟩
    | cons c cs' =>
      rw [List.nil_append] at h
      rw [h, List.cons_append, stops_cons] at hds
      exact absurd hds (hcs' c List.mem_cons_self)
  | cons c cs ih =>
    cases cs' with
    | nil =>
      rw [List.nil_append] at h
      rw [← h, List.cons_append, stops_cons] at hds'
      exact absurd hds' (hcs c List.mem_cons_self)
    | cons c' cs' =>
      obtain ⟨rfl, hrest⟩ := List.cons.inj h
      obtain ⟨rfl, rfl⟩ := ih (fun d hd => hcs d (List.mem_cons_of_mem c hd))
        (fun d hd => hcs' d (List.mem_cons_of_mem c hd)) hrest
      exact ⟨rfl, rfl⟩

def Agree (marks : List Char) (s s' : String) (same : Prop) : Prop :=
  ∀ cs ds, Stops marks cs → Stops marks ds → s.toList ++ cs = s'.toList ++ ds → same ∧ cs = ds

/-! Texts that are listed with commas, up to the bracket that closes. -/

def closing (close : Char) : List String → List Char
  | [] => [close]
  | s :: ss => ',' :: ' ' :: (s.toList ++ closing close ss)

lemma toList_intercalate (close : Char) (s : String) (ss : List String) :
    (", ".intercalate (s :: ss)).toList ++ [close] = s.toList ++ closing close ss := by
  induction ss generalizing s with
  | nil => simp [closing]
  | cons s' ss ih =>
    rw [String.intercalate_cons_cons, String.toList_append, String.toList_append, List.append_assoc, ih s', closing]
    simp

lemma stops_closing (hcomma : ',' ∈ marks) (hclose : close ∈ marks) (ss : List String) (cs : List Char) :
    Stops marks (closing close ss ++ cs) := by
  cases ss with
  | nil => exact stops_cons.2 hclose
  | cons s ss => exact stops_cons.2 hcomma

variable {α β : Type} {f : α → String} {shown : α → β} {as bs : List α}

lemma closing_append_inj (hcomma : ',' ∈ marks) (hclose : close ∈ marks) (hne : close ≠ ',')
    (hagree : ∀ a ∈ as, ∀ b ∈ bs, Agree marks (f a) (f b) (shown a = shown b))
    (h : closing close (as.map f) ++ cs = closing close (bs.map f) ++ ds) : as.map shown = bs.map shown ∧ cs = ds := by
  induction as generalizing bs with
  | nil =>
    cases bs with
    | nil => exact ⟨rfl, List.append_cancel_left h⟩
    | cons b bs => exact absurd (List.cons.inj h).1 hne
  | cons a as ih =>
    cases bs with
    | nil => exact absurd (List.cons.inj h).1.symm hne
    | cons b bs =>
      obtain ⟨hfirst, hrest⟩ := List.forall_mem_cons.1 hagree
      simp only [List.map_cons, closing, List.cons_append, List.append_assoc, List.cons.injEq, true_and] at h
      obtain ⟨hshown, h⟩ := hfirst b List.mem_cons_self _ _ (stops_closing hcomma hclose _ cs)
        (stops_closing hcomma hclose _ ds) h
      obtain ⟨hmap, hends⟩ := ih (fun a ha b hb => hrest a ha b (List.mem_cons_of_mem _ hb)) h
      rw [List.map_cons, List.map_cons, hshown, hmap]
      exact ⟨rfl, hends⟩

end Text

open Text

namespace TypeRef

mutual

def unmarked : TypeRef → TypeRef
  | ⟨p, n, as, _⟩ => ⟨p, n, unmarkedAll as, false⟩

def unmarkedAll : List TypeRef → List TypeRef
  | [] => []
  | a :: as => unmarked a :: unmarkedAll as

end

def separators : List Char :=
  [',', ' ', '[', ']']

def ends : List Char :=
  [',', ' ', ']']

mutual

def isPlain : TypeRef → Bool
  | ⟨p, n, as, _⟩ => '.' ∉ n.toList && (p.toList ++ n.toList).all (· ∉ separators) && arePlain as

def arePlain : List TypeRef → Bool
  | [] => true
  | a :: as => isPlain a && arePlain as

end

variable {r q : TypeRef} {as bs : List TypeRef} {cs ds : List Char}

lemma texts_eq_map (as : List TypeRef) : texts as = as.map text := by
  induction as with
  | nil => rfl
  | cons a as ih => rw [texts, ih, List.map_cons]

lemma unmarkedAll_eq_map (as : List TypeRef) : unmarkedAll as = as.map unmarked := by
  induction as with
  | nil => rfl
  | cons a as ih => rw [unmarkedAll, ih, List.map_cons]

lemma arePlain_cons {a : TypeRef} : arePlain (a :: as) ↔ a.isPlain ∧ arePlain as := by
  rw [arePlain, Bool.and_eq_true]

lemma arePlain_iff : arePlain as ↔ ∀ a ∈ as, a.isPlain := by
  induction as with
  | nil => simp [arePlain]
  | cons a as ih => rw [arePlain_cons, ih, List.forall_mem_cons]

def bracketed : List TypeRef → List Char
  | [] => []
  | a :: as => '[' :: (a.text.toList ++ closing ']' (as.map text))

lemma toList_text (p n : String) (as : List TypeRef) (v : Bool) :
    (text ⟨p, n, as, v⟩).toList = (fullName ⟨p, n, as, v⟩).toList ++ bracketed as := by
  cases as with
  | nil => rw [text, texts, bracketed, List.append_nil]
  | cons a as =>
    rw [text, texts, bracketed, ← toList_intercalate, texts_eq_map]
    simp

lemma stops_bracketed (as : List TypeRef) (h : Stops ends cs) : Stops separators (bracketed as ++ cs) := by
  cases as with
  | nil =>
    have hsub : ∀ c ∈ ends, c ∈ separators := by simp [ends, separators]
    exact fun c hc => hsub c (h c hc)
  | cons a as => simp [bracketed, separators]

lemma isPlain_iff {p n : String} {v : Bool} : isPlain ⟨p, n, as, v⟩ ↔
    '.' ∉ n.toList ∧ (∀ c ∈ (fullName ⟨p, n, as, v⟩).toList, c ∉ separators) ∧ arePlain as := by
  have hname : (∀ c ∈ (fullName ⟨p, n, as, v⟩).toList, c ∉ separators) ↔
      ∀ c ∈ p.toList ++ n.toList, c ∉ separators := by
    rw [fullName]
    split
    · rename_i hpackage
      change p = "" at hpackage
      simp [hpackage]
    · have hpoint : '.' ∉ separators := by decide
      simp only [String.toList_append, List.mem_append]
      grind
  rw [hname, isPlain, Bool.and_eq_true, Bool.and_eq_true, decide_eq_true_iff, List.all_eq_true, and_assoc]
  simp only [decide_eq_true_eq]

lemma bracketed_append_inj (hagree : ∀ a ∈ as, ∀ b ∈ bs, Agree ends a.text b.text (a.unmarked = b.unmarked))
    (hcs : Stops ends cs) (hds : Stops ends ds) (h : bracketed as ++ cs = bracketed bs ++ ds) :
    as.map unmarked = bs.map unmarked ∧ cs = ds := by
  have hopen : '[' ∉ ends := by simp [ends]
  cases as with
  | nil =>
    cases bs with
    | nil => exact ⟨rfl, h⟩
    | cons b bs =>
      rw [bracketed, bracketed, List.nil_append] at h
      rw [h, List.cons_append, stops_cons] at hcs
      exact absurd hcs hopen
  | cons a as =>
    cases bs with
    | nil =>
      rw [bracketed, bracketed, List.nil_append] at h
      rw [← h, List.cons_append, stops_cons] at hds
      exact absurd hds hopen
    | cons b bs =>
      have hlisted := congrArg (',' :: ' ' :: ·) (List.cons.inj h).2
      exact closing_append_inj (by simp [ends]) (by simp [ends]) (by decide) hagree hlisted

mutual

theorem text_agrees : (r : TypeRef) → r.isPlain → (q : TypeRef) → q.isPlain →
    Agree ends r.text q.text (r.unmarked = q.unmarked)
  | ⟨p, n, as, v⟩, hr, ⟨p', n', bs, v'⟩, hq => by
    intro cs ds hcs hds h
    rw [toList_text, toList_text, List.append_assoc, List.append_assoc] at h
    obtain ⟨hpoint, hplain, has⟩ := isPlain_iff.1 hr
    obtain ⟨hpoint', hplain', hbs⟩ := isPlain_iff.1 hq
    obtain ⟨hname, hrest⟩ := append_inj_of_stops hplain hplain' (stops_bracketed as hcs) (stops_bracketed bs hds) h
    have hkey := congrArg (splitLast '.') (String.toList_inj.1 hname)
    rw [splitLast_fullName hpoint, splitLast_fullName hpoint'] at hkey
    obtain ⟨rfl, rfl⟩ := Prod.mk.inj hkey
    have hagree := fun a ha b hb => texts_agree as has a ha b (arePlain_iff.1 hbs b hb)
    obtain ⟨harguments, rfl⟩ := bracketed_append_inj hagree hcs hds hrest
    rw [unmarked, unmarked, unmarkedAll_eq_map, unmarkedAll_eq_map, harguments]
    exact ⟨rfl, rfl⟩

theorem texts_agree : (as : List TypeRef) → arePlain as → ∀ a ∈ as, ∀ b : TypeRef, b.isPlain →
    Agree ends a.text b.text (a.unmarked = b.unmarked)
  | [], _ => fun _ ha => absurd ha List.not_mem_nil
  | a :: as, h => List.forall_mem_cons.2 ⟨text_agrees a (arePlain_cons.1 h).1, texts_agree as (arePlain_cons.1 h).2⟩

end

mutual

theorem text_unmarked : (r : TypeRef) → r.unmarked.text = r.text
  | ⟨p, n, as, v⟩ => by
    rw [unmarked, text, text, texts_unmarkedAll as]
    rfl

theorem texts_unmarkedAll : (as : List TypeRef) → texts (unmarkedAll as) = texts as
  | [] => rfl
  | a :: as => by rw [unmarkedAll, texts, texts, text_unmarked a, texts_unmarkedAll as]

end

lemma text_eq_iff (hr : r.isPlain) (hq : q.isPlain) : r.text = q.text ↔ r.unmarked = q.unmarked := by
  constructor
  · intro h
    exact (text_agrees r hr q hq [] [] (stops_nil _) (stops_nil _) (congrArg (String.toList · ++ []) h)).1
  · intro h
    rw [← text_unmarked r, ← text_unmarked q, h]

end TypeRef

namespace Parameter

def ends : List Char :=
  [',', ' ', ')']

def isPlain (p : Parameter) : Bool :=
  p.type.isPlain && p.default = none && p.name.toList.all (· ∉ ends)

def shown (p : Parameter) : String × TypeRef :=
  (p.name, p.type.unmarked)

def listed : List Parameter → List Char
  | [] => [')']
  | p :: ps => p.text.toList ++ closing ')' (ps.map text)

variable {p q : Parameter} {ps qs : List Parameter} {cs ds : List Char}

lemma comma_mem_ends : ',' ∈ ends :=
  List.mem_cons_self

lemma bracket_mem_ends : ')' ∈ ends :=
  List.mem_cons_of_mem _ (List.mem_cons_of_mem _ List.mem_cons_self)

lemma toList_intercalate_listed (ps : List Parameter) :
    (", ".intercalate (ps.map text)).toList ++ [')'] = listed ps := by
  cases ps with
  | nil => rfl
  | cons p ps => exact toList_intercalate ')' p.text (ps.map text)

lemma isPlain_iff : p.isPlain ↔ p.type.isPlain ∧ p.default = none ∧ ∀ c ∈ p.name.toList, c ∉ ends := by
  simp [isPlain, and_assoc]

lemma toList_text (h : p.isPlain) : p.text.toList = p.type.text.toList ++ ' ' :: p.name.toList := by
  rw [text, (isPlain_iff.1 h).2.1]
  simp

lemma text_agrees (hp : p.isPlain) (hq : q.isPlain) : Agree ends p.text q.text (p.shown = q.shown) := by
  intro cs ds hcs hds h
  obtain ⟨htype, -, hname⟩ := isPlain_iff.1 hp
  obtain ⟨htype', -, hname'⟩ := isPlain_iff.1 hq
  rw [toList_text hp, toList_text hq, List.append_assoc, List.append_assoc] at h
  obtain ⟨hshown, hrest⟩ := TypeRef.text_agrees p.type htype q.type htype' _ _ (by simp [TypeRef.ends])
    (by simp [TypeRef.ends]) h
  obtain ⟨hnames, rfl⟩ := append_inj_of_stops hname hname' hcs hds (List.cons.inj hrest).2
  rw [shown, shown, hshown, String.toList_inj.1 hnames]
  exact ⟨rfl, rfl⟩

lemma closed_ne_listed (hp : p.isPlain) : ')' :: (" -> ".toList ++ cs) ≠ listed (p :: ps) ++ ds := by
  intro h
  obtain ⟨htype, -, hname⟩ := isPlain_iff.1 hp
  let bracket : TypeRef := { name := ")" }
  have hbracket : bracket.text.toList ++ ' ' :: ('-' :: '>' :: ' ' :: cs) =
      p.type.text.toList ++ ' ' :: (p.name.toList ++ (closing ')' (ps.map text) ++ ds)) := by
    have hone : bracket.text.toList = [')'] := by decide
    rw [listed, toList_text hp, List.append_assoc, List.append_assoc] at h
    rw [hone]
    exact h
  obtain ⟨-, hrest⟩ := TypeRef.text_agrees bracket (by decide) p.type htype _ _ (by simp [TypeRef.ends])
    (by simp [TypeRef.ends]) hbracket
  have harrow : ['-', '>'] ++ ' ' :: cs = p.name.toList ++ (closing ')' (ps.map text) ++ ds) := (List.cons.inj hrest).2
  obtain ⟨-, hends⟩ := append_inj_of_stops (by simp [ends]) hname (by simp [ends])
    (stops_closing comma_mem_ends bracket_mem_ends _ ds) harrow
  cases ps <;> simp [closing] at hends

lemma listed_append_inj (hps : ∀ p ∈ ps, p.isPlain) (hqs : ∀ q ∈ qs, q.isPlain)
    (h : listed ps ++ (" -> ".toList ++ cs) = listed qs ++ (" -> ".toList ++ ds)) :
    ps.map shown = qs.map shown ∧ cs = ds := by
  cases ps with
  | nil =>
    cases qs with
    | nil => exact ⟨rfl, List.append_cancel_left (List.append_cancel_left h)⟩
    | cons q qs => exact absurd h (closed_ne_listed (hqs q List.mem_cons_self))
  | cons p ps =>
    cases qs with
    | nil => exact absurd h.symm (closed_ne_listed (hps p List.mem_cons_self))
    | cons q qs =>
      have hlisted := congrArg (',' :: ' ' :: ·) h
      obtain ⟨hmap, hends⟩ := closing_append_inj comma_mem_ends bracket_mem_ends (by decide)
        (fun p hp q hq => text_agrees (hps p hp) (hqs q hq)) hlisted
      exact ⟨hmap, List.append_cancel_left hends⟩

end Parameter

lemma MemberKind.text_injective : Function.Injective (Named.text : MemberKind → String) := by
  intro k k' h
  have hread := congrArg (Named.ofText? (α := MemberKind)) h
  rw [Named.ofText?_text, Named.ofText?_text] at hread
  exact Option.some.inj hread

namespace MemberDeclaration

def isPlain (m : MemberDeclaration) : Bool :=
  m.type.isPlain && m.parameters.all (·.isPlain) && '(' ∉ m.name.toList

variable {m k : MemberDeclaration}

lemma isPlain_iff : m.isPlain ↔
    m.type.isPlain ∧ (∀ p ∈ m.parameters, p.isPlain) ∧ ∀ c ∈ m.name.toList, c ∉ ['('] := by
  have hname : (∀ c ∈ m.name.toList, c ∉ ['(']) ↔ '(' ∉ m.name.toList := by
    simp only [List.mem_singleton]
    exact ⟨fun h hmem => h _ hmem rfl, fun h c hc heq => h (heq ▸ hc)⟩
  rw [hname]
  simp [isPlain, and_assoc]

lemma blank_notMem_kind (k : MemberKind) : ∀ c ∈ (Named.text k).toList, c ∉ [' '] := by
  cases k <;> simp [Named.text]

lemma signature_of_isPlain (h : m.isPlain) : m.signature = Named.text m.kind ++ " " ++ m.name ++ "(" ++
    ", ".intercalate ((m.parameters.map Parameter.shown).map fun p => p.2.text ++ " " ++ p.1) ++ ") -> " ++
      m.type.unmarked.text := by
  have hparameters : (m.parameters.map Parameter.shown).map (fun p => p.2.text ++ " " ++ p.1) =
      m.parameters.map Parameter.text := by
    rw [List.map_map]
    refine List.map_congr_left fun p hp => ?_
    have hdefault := (Parameter.isPlain_iff.1 ((isPlain_iff.1 h).2.1 p hp)).2.1
    rw [Function.comp_apply, Parameter.shown, TypeRef.text_unmarked, Parameter.text, hdefault]
  rw [hparameters, TypeRef.text_unmarked, signature]

lemma toList_signature (m : MemberDeclaration) : m.signature.toList =
    (Named.text m.kind).toList ++ ' ' :: (m.name.toList ++
      '(' :: (Parameter.listed m.parameters ++ (" -> ".toList ++ m.type.text.toList))) := by
  rw [← Parameter.toList_intercalate_listed]
  simp [signature]

lemma parts_eq_of_signature_eq (hm : m.isPlain) (hk : k.isPlain) (h : m.signature = k.signature) :
    m.kind = k.kind ∧ m.name = k.name ∧ m.parameters.map Parameter.shown = k.parameters.map Parameter.shown ∧
      m.type.unmarked = k.type.unmarked := by
  obtain ⟨htype, hparameters, hname⟩ := isPlain_iff.1 hm
  obtain ⟨htype', hparameters', hname'⟩ := isPlain_iff.1 hk
  have hlist := congrArg String.toList h
  rw [toList_signature, toList_signature] at hlist
  obtain ⟨hkinds, hlist⟩ := append_inj_of_stops (blank_notMem_kind m.kind) (blank_notMem_kind k.kind) (by simp)
    (by simp) hlist
  obtain ⟨hnames, hlist⟩ := append_inj_of_stops hname hname' (by simp) (by simp) (List.cons.inj hlist).2
  obtain ⟨hshown, htypes⟩ := Parameter.listed_append_inj hparameters hparameters' (List.cons.inj hlist).2
  exact ⟨MemberKind.text_injective (String.toList_inj.1 hkinds), String.toList_inj.1 hnames, hshown,
    (TypeRef.text_eq_iff htype htype').1 (String.toList_inj.1 htypes)⟩

end MemberDeclaration

/-- Texts tell references apart and signatures tell members apart, but for what is marked as a type parameter: no two
plain ones that differ in anything else have one text. -/
theorem texts_told_apart :
    (∀ r q : TypeRef, r.isPlain → q.isPlain → (r.text = q.text ↔ r.unmarked = q.unmarked)) ∧
      ∀ m k : MemberDeclaration, m.isPlain → k.isPlain →
        (m.signature = k.signature ↔ m.kind = k.kind ∧ m.name = k.name ∧
          m.parameters.map Parameter.shown = k.parameters.map Parameter.shown ∧
            m.type.unmarked = k.type.unmarked) := by
  refine ⟨fun r q hr hq => TypeRef.text_eq_iff hr hq, fun m k hm hk => ?_⟩
  refine ⟨MemberDeclaration.parts_eq_of_signature_eq hm hk, ?_⟩
  rintro ⟨hkind, hname, hparameters, htype⟩
  rw [MemberDeclaration.signature_of_isPlain hm, MemberDeclaration.signature_of_isPlain hk, hkind, hname, hparameters,
    htype]

/-! Drawers for pairs. Two of them differ in nothing but where a bracket closes. -/

namespace Drawers

def named (name : String) (arguments : List TypeRef) : TypeRef where
  package := "app"
  name
  arguments

def item : TypeRef where
  name := "T"
  isTypeParameter := true

def put (entry : TypeRef) : MemberDeclaration where
  name := "put"
  type := { package := "builtins", name := "None" }
  kind := .method
  parameters := [{ name := "entry", type := entry }]

def paired : TypeRef :=
  named "Pair" [named "Pair" [item, named "User" []], named "Order" []]

def threaded : TypeRef :=
  named "Pair" [named "Pair" [item], named "User" [], named "Order" []]

theorem puts_told_apart :
    (put paired).isPlain ∧ (put threaded).isPlain ∧ (put paired.unmarked).isPlain ∧
      (put paired).signature ≠ (put threaded).signature ∧ (put paired).signature = (put paired.unmarked).signature := by
  have hpaired : (put paired).isPlain := by decide
  have hthreaded : (put threaded).isPlain := by decide
  have hunmarked : (put paired.unmarked).isPlain := by decide
  obtain ⟨-, h⟩ := texts_told_apart
  refine ⟨hpaired, hthreaded, hunmarked, fun hsame => ?_, (h _ _ hpaired hunmarked).2 (by decide)⟩
  obtain ⟨-, -, hparameters, -⟩ := (h _ _ hpaired hthreaded).1 hsame
  exact absurd hparameters (by decide)

end Drawers

end Wiring
