import Wiring.Proofs.Plan.Forwarding
import Wiring.Text.Identifier

/-!
Names of parameters as names of the target language. The search for a free name ends at the least number that makes a
name free, and no parameter is called like a reserved word or like the object itself. A member gives its name without
the underscores that it begins with, so its parameter is an identifier exactly if the rest begins like one.
-/

namespace Wiring

namespace Text

variable {cs ds : List Char} {c : Char}

def continuesName (c : Char) : Bool :=
  startsName c || isContinuation c

lemma isIdentifier_cons : isIdentifier (c :: cs) ↔ startsName c ∧ ∀ e ∈ cs, continuesName e := by
  rw [isIdentifier, Bool.and_eq_true, List.all_eq_true]
  rfl

lemma continuesName_of_isIdentifier (h : isIdentifier cs) : ∀ e ∈ cs, continuesName e := by
  cases cs with
  | nil => exact List.forall_mem_nil _
  | cons c cs =>
    obtain ⟨hc, hcs⟩ := isIdentifier_cons.1 h
    exact List.forall_mem_cons.2 ⟨by rw [continuesName, hc, Bool.true_or], hcs⟩

lemma isIdentifier_append (hcs : cs ≠ []) (hds : ∀ e ∈ ds, continuesName e) :
    isIdentifier (cs ++ ds) ↔ isIdentifier cs := by
  obtain ⟨c, cs, rfl⟩ := List.exists_cons_of_ne_nil hcs
  rw [List.cons_append, isIdentifier_cons, isIdentifier_cons, List.forall_mem_append, and_iff_left hds]

lemma continuesName_underscore : ∀ e ∈ "_".toList, continuesName e := by
  intro e he
  obtain rfl : e = '_' := by simpa using he
  rw [continuesName, startsName, decide_eq_true rfl, Bool.true_or, Bool.true_or]

lemma continuesName_of_isDigit (h : c.isDigit) : continuesName c := by
  have hrange : (0x30, 0x39) ∈ continuationRanges := List.mem_cons_self
  rw [Char.isDigit, Bool.and_eq_true, decide_eq_true_iff, decide_eq_true_iff] at h
  have hbounds : 0x30 ≤ c.toNat ∧ c.toNat ≤ 0x39 := h.imp UInt32.le_iff_toNat_le.1 UInt32.le_iff_toNat_le.1
  rw [continuesName, Bool.or_eq_true, isContinuation, List.any_eq_true]
  exact .inr ⟨_, hrange, Bool.and_eq_true_iff.2 (hbounds.imp decide_eq_true decide_eq_true)⟩

end Text

open Text

inductive FirstFree (used : List String) (name : String) : String → Prop
  | plain : name ∉ used → FirstFree used name name
  | numbered {k : Nat} : name ∈ used → numberedName name (k + 2) ∉ used →
      (∀ j < k, numberedName name (j + 2) ∈ used) → FirstFree used name (numberedName name (k + 2))

/-- Whether a name begins like an identifier once the underscores in front are gone. -/
def BeginsPlainly (member : String) : Prop :=
  ∀ c ∈ (member.toList.dropWhile (· = '_')).head?, startsName c

instance (member : String) : Decidable (BeginsPlainly member) :=
  decidable_of_iff ((member.toList.dropWhile (· = '_')).head?.all startsName) (Option.all_eq_true _ _)

variable {used ns : List String} {name n member : String}

lemma freshName_firstFree (used : List String) (name : String) : FirstFree used name (freshName used name) := by
  by_cases h : name ∈ used
  · obtain ⟨k, hname, hfree, hleast⟩ := freshName_of_mem h
    rw [hname]
    exact .numbered h hfree hleast
  · rw [freshName_of_notMem h]
    exact .plain h

/-! Reserved words. -/

lemma not_reserved_of_underscore (h : '_' ∈ n.toList) : isKeyword n = false ∧ n ≠ "self" :=
  ⟨isKeyword_of_underscore h, fun heq => absurd (heq ▸ h) (by decide)⟩

lemma not_reserved_parameterName (member : String) :
    isKeyword (parameterName member) = false ∧ parameterName member ≠ "self" := by
  unfold parameterName
  extract_lets stripped name
  split
  · exact not_reserved_of_underscore (by simp)
  · rename_i h
    simpa using h

lemma FirstFree.not_reserved (h : FirstFree used name n) (hname : isKeyword name = false ∧ name ≠ "self") :
    isKeyword n = false ∧ n ≠ "self" := by
  cases h with
  | plain => exact hname
  | numbered => exact not_reserved_of_underscore (by simp [numberedName])

/-! Identifiers. -/

lemma isIdentifier_numberedName (hname : name.toList ≠ []) (k : Nat) :
    isIdentifier (numberedName name k).toList ↔ isIdentifier name.toList := by
  rw [numberedName, String.toList_append, String.toList_append, List.append_assoc]
  refine isIdentifier_append hname (List.forall_mem_append.2 ⟨continuesName_underscore, fun c hc => ?_⟩)
  rw [Nat.toString_eq_ofList_toDigits, String.toList_ofList] at hc
  exact continuesName_of_isDigit (Nat.isDigit_of_mem_toDigits (by decide) (by decide) hc)

lemma FirstFree.isIdentifier_iff (h : FirstFree used name n) (hname : name.toList ≠ []) :
    isIdentifier n.toList ↔ isIdentifier name.toList := by
  cases h with
  | plain => rfl
  | numbered => exact isIdentifier_numberedName hname _

lemma isIdentifier_stripped (h : isIdentifier member.toList) {c : Char} {rest : List Char}
    (hstripped : member.toList.dropWhile (· = '_') = c :: rest) : isIdentifier (c :: rest) ↔ startsName c := by
  have hsuffix : ∀ e ∈ c :: rest, continuesName e := by
    intro e he
    rw [← hstripped] at he
    exact continuesName_of_isIdentifier h e (List.dropWhile_subset _ he)
  rw [isIdentifier_cons, and_iff_left fun e he => hsuffix e (List.mem_cons_of_mem c he)]

lemma parameterName_ne_nil (h : member.toList ≠ []) : (parameterName member).toList ≠ [] := by
  unfold parameterName
  extract_lets stripped name
  have hname : name.toList ≠ [] := by
    by_cases hs : stripped = []
    · rwa [show name = member from if_pos hs]
    · rwa [show name = String.ofList stripped from if_neg hs, String.toList_ofList]
  split
  · simp
  · exact hname

lemma isIdentifier_parameterName (h : isIdentifier member.toList) :
    isIdentifier (parameterName member).toList ↔ BeginsPlainly member := by
  unfold parameterName BeginsPlainly
  extract_lets stripped name
  have hname : (isIdentifier name.toList ↔ ∀ c ∈ stripped.head?, startsName c) ∧ name.toList ≠ [] := by
    cases hs : stripped with
    | nil =>
      rw [show name = member from if_pos hs]
      exact ⟨iff_of_true h nofun, fun hnil => by rw [hnil] at h; cases h⟩
    | cons c rest =>
      rw [show name = String.ofList stripped from if_neg (by rw [hs]; exact List.cons_ne_nil c rest), hs,
        String.toList_ofList, isIdentifier_stripped h hs]
      exact ⟨by simp, List.cons_ne_nil c rest⟩
  split
  · rw [String.toList_append, isIdentifier_append hname.2 continuesName_underscore]
    exact hname.1
  · exact hname.1

namespace Conventions

variable {c : Conventions} {s : Settings} {d : TypeDeclaration} {P : InitializerPlan}

lemma names_of_parameters (c : Conventions) (s : Settings) (d : TypeDeclaration) :
    (c.initializerPlan s d).parameters.map (·.name) =
      freshNames [] ((c.initializerPlan s d).parameters.map (·.member.name)) := by
  have hmembers := congrArg (List.map MemberDeclaration.name) (map_member_parameters c s d)
  rw [List.map_map, List.map_map] at hmembers
  rw [map_name_parameters, parameterNames]
  exact congrArg (freshNames []) hmembers.symm

lemma firstFree_parameter {earlier later : List InitializerParameter} {p : InitializerParameter}
    (h : (c.initializerPlan s d).parameters = earlier ++ p :: later) :
    FirstFree (earlier.map (·.name)) (parameterName p.member.name) p.name := by
  have hnames := names_of_parameters c s d
  rw [h, List.map_append, List.map_append, List.map_cons, List.map_cons, freshNames_append, freshNames] at hnames
  obtain ⟨hearlier, hlater⟩ := List.append_inj hnames (by simp)
  obtain ⟨hname, -⟩ := List.cons.inj hlater
  rw [List.nil_append, ← hearlier] at hname
  rw [hname]
  exact freshName_firstFree _ _

/-- The parameters of an initializer have names of their own, none of them reserved. They are identifiers where the
members begin like identifiers once the underscores in front are gone. -/
theorem parameters_well_named (hP : P ∈ c.initializerPlans s) :
    (P.parameters.map (·.name)).Nodup ∧
      (∀ earlier p later, P.parameters = earlier ++ p :: later →
        FirstFree (earlier.map (·.name)) (parameterName p.member.name) p.name) ∧
      ∀ p ∈ P.parameters, isKeyword p.name = false ∧ p.name ≠ "self" ∧
        (isIdentifier p.member.name.toList → (isIdentifier p.name.toList ↔ BeginsPlainly p.member.name)) := by
  obtain ⟨d, -, rfl⟩ := List.mem_map.1 hP
  refine ⟨?_, fun earlier p later h => firstFree_parameter h, fun p hp => ?_⟩
  · rw [map_name_parameters]
    exact parameterNames_nodup c s d
  · obtain ⟨earlier, later, hsplit⟩ := List.append_of_mem hp
    have hfree := firstFree_parameter hsplit
    obtain ⟨hkeyword, hself⟩ := hfree.not_reserved (not_reserved_parameterName _)
    refine ⟨hkeyword, hself, fun hmember => ?_⟩
    have hne : p.member.name.toList ≠ [] := fun hnil => by rw [hnil] at hmember; cases hmember
    rw [hfree.isIdentifier_iff (parameterName_ne_nil hne), isIdentifier_parameterName hmember]

end Conventions

/-! Races in some class, for which a clock of another class and one for the first place are kept. -/

namespace Races

open Documents (named dependency)

def race : TypeDeclaration where
  ref := named "Race"
  members := [dependency "Race" "_class" "Class", dependency "Race" "class_" "Clock", dependency "Race" "_1st" "Clock"]

def declarations : DeclarationSet where
  types := [race]
  keys_nodup := by decide

def conventions : Conventions where
  declarations := declarations
  links := []
  chains := [(race.key, [])]

def plan : InitializerPlan :=
  conventions.initializerPlan {} race

lemma mem_initializerPlans : plan ∈ conventions.initializerPlans {} :=
  List.mem_map.2 ⟨race, by decide, rfl⟩

lemma members : plan.parameters.map (·.member.name) = ["_class", "class_", "_1st"] := by
  decide

example : plan.parameters.map (·.name) = ["class_", "class__2", "1st"] := by
  decide

theorem classes_well_named :
    plan ∈ conventions.initializerPlans {} ∧ ∀ p ∈ plan.parameters, p.member.name ≠ "_1st" →
      isIdentifier p.member.name.toList ∧ isIdentifier p.name.toList := by
  obtain ⟨-, -, hnamed⟩ := Conventions.parameters_well_named mem_initializerPlans
  refine ⟨mem_initializerPlans, fun p hp hne => ?_⟩
  have hmember : p.member.name ∈ ["_class", "class_", "_1st"] := members ▸ List.mem_map_of_mem hp
  have hvalid : ∀ m ∈ ["_class", "class_"], isIdentifier m.toList ∧ BeginsPlainly m := by decide +kernel
  have hname : p.member.name ∈ ["_class", "class_"] := by simpa [hne] using hmember
  obtain ⟨hidentifier, hbegins⟩ := hvalid _ hname
  exact ⟨hidentifier, ((hnamed p hp).2.2 hidentifier).2 hbegins⟩

theorem first_not_identifier :
    Conventions.ofDeclarations declarations = .ok conventions ∧ plan ∈ conventions.initializerPlans {} ∧
      (∀ p ∈ plan.parameters, isIdentifier p.member.name.toList) ∧
      ∃ p ∈ plan.parameters, p.name = "1st" ∧ isIdentifier p.name.toList = false :=
  ⟨by cbv, mem_initializerPlans, by decide +kernel, by decide +kernel⟩

end Races

end Wiring
