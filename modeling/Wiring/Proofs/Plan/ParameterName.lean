import Mathlib.Data.List.Nodup
import Mathlib.Tactic.ByContra
import Std.Data.String.ToNat
import Wiring.Plan.Initializer

/-!
Names of parameters. Among one more candidates than there are used names one is free, so no two parameters of an
initializer share a name, and none has the name of a reserved word. A name is given as it is, or with the first number
that makes it free.
-/

namespace Wiring

lemma numberedName_injective {name : String} {n k : Nat} (h : numberedName name n = numberedName name k) :
    n = k := by
  unfold numberedName at h
  exact Nat.repr_injective (String.append_right_inj _ |>.1 h)

lemma exists_free_candidate (used : List String) (name : String) :
    ∃ c ∈ (List.range (used.length + 1)).map fun i => numberedName name (i + 2), c ∉ used := by
  by_contra! h
  have hnodup : ((List.range (used.length + 1)).map fun i => numberedName name (i + 2)).Nodup := by
    refine List.Nodup.map ?_ List.nodup_range
    intro i j hij
    exact Nat.add_right_cancel (numberedName_injective hij)
  have hle := List.Nodup.length_le_of_subset hnodup h
  rw [List.length_map, List.length_range] at hle
  omega

lemma freshName_not_mem (used : List String) (name : String) : freshName used name ∉ used := by
  unfold freshName
  split
  · obtain ⟨c, hc, hu⟩ := exists_free_candidate used name
    cases hf : ((List.range (used.length + 1)).map fun i => numberedName name (i + 2)).find? (· ∉ used) with
    | none => exact absurd (List.find?_eq_none.1 hf c hc) (by simpa using hu)
    | some f => simpa using List.find?_some hf
  · assumption

@[simp] lemma length_freshNames (used ns : List String) : (freshNames used ns).length = ns.length := by
  induction ns generalizing used with
  | nil => rfl
  | cons n ns ih => simp [freshNames, ih]

lemma not_mem_of_mem_freshNames {used ns : List String} {n : String} (h : n ∈ freshNames used ns) : n ∉ used := by
  induction ns generalizing used with
  | nil => cases h
  | cons m ns ih =>
    rcases List.mem_cons.1 h with rfl | h
    · exact freshName_not_mem _ _
    · exact fun hu => ih h (List.mem_append_left _ hu)

lemma freshNames_nodup (used ns : List String) : (freshNames used ns).Nodup := by
  induction ns generalizing used with
  | nil => exact List.nodup_nil
  | cons n ns ih =>
    rw [freshNames, List.nodup_cons]
    exact ⟨fun h => not_mem_of_mem_freshNames h (by simp), ih _⟩

lemma isKeyword_of_underscore {name : String} (h : '_' ∈ name.toList) : isKeyword name = false := by
  have hnone : ∀ w ∈ keywords, '_' ∉ w.toList := by decide
  rw [isKeyword, decide_eq_false_iff_not]
  exact fun hmem => hnone name hmem h

lemma isKeyword_parameterName (member : String) : isKeyword (parameterName member) = false := by
  unfold parameterName
  extract_lets stripped name
  split
  · exact isKeyword_of_underscore (by simp)
  · rename_i h
    rw [Bool.or_eq_true, not_or] at h
    simpa using h.1

lemma isKeyword_freshName (used : List String) {name : String} (h : isKeyword name = false) :
    isKeyword (freshName used name) = false := by
  unfold freshName
  split
  · cases hf : ((List.range (used.length + 1)).map fun i => numberedName name (i + 2)).find? (· ∉ used) with
    | none => exact h
    | some f =>
      obtain ⟨i, -, rfl⟩ := List.mem_map.1 (List.mem_of_find?_eq_some hf)
      exact isKeyword_of_underscore (by simp [numberedName])
  · exact h

lemma isKeyword_of_mem_freshNames {used ns : List String} {n : String} (h : n ∈ freshNames used ns) :
    isKeyword n = false := by
  induction ns generalizing used with
  | nil => cases h
  | cons m ns ih =>
    obtain rfl | h := List.mem_cons.1 h
    · exact isKeyword_freshName used (isKeyword_parameterName m)
    · exact ih h

/-! Which names are given. -/

lemma freshName_of_notMem {used : List String} {name : String} (h : name ∉ used) : freshName used name = name :=
  if_neg h

lemma freshName_of_mem {used : List String} {name : String} (h : name ∈ used) :
    ∃ k, freshName used name = numberedName name (k + 2) ∧ numberedName name (k + 2) ∉ used ∧
      ∀ j < k, numberedName name (j + 2) ∈ used := by
  obtain ⟨candidate, hcandidate, hfree⟩ := exists_free_candidate used name
  obtain ⟨i, hi, rfl⟩ := List.mem_map.1 hcandidate
  rw [freshName, if_pos h, List.find?_map]
  cases hfind : (List.range (used.length + 1)).find? ((· ∉ used) ∘ fun i => numberedName name (i + 2)) with
  | none => exact absurd (List.find?_eq_none.1 hfind i hi) (by simpa using hfree)
  | some k =>
    obtain ⟨hk, -, hleast⟩ := List.find?_range_eq_some.1 hfind
    exact ⟨k, rfl, by simpa using hk, fun j hj => by simpa using hleast j hj⟩

lemma freshNames_append (used ns ms : List String) :
    freshNames used (ns ++ ms) = freshNames used ns ++ freshNames (used ++ freshNames used ns) ms := by
  induction ns generalizing used with
  | nil => simp [freshNames]
  | cons n ns ih => simp [freshNames, ih, List.append_assoc]

lemma mem_freshNames_split {used ns : List String} {n : String} :
    n ∈ freshNames used ns ↔ ∃ earlier m later, ns = earlier ++ m :: later ∧
      n = freshName (used ++ freshNames used earlier) (parameterName m) := by
  constructor
  · intro h
    induction ns generalizing used with
    | nil => cases h
    | cons m ns ih =>
      obtain rfl | h := List.mem_cons.1 h
      · exact ⟨[], m, ns, rfl, by rw [freshNames, List.append_nil]⟩
      · obtain ⟨earlier, k, later, rfl, rfl⟩ := ih h
        refine ⟨m :: earlier, k, later, rfl, ?_⟩
        rw [freshNames, List.append_assoc, List.singleton_append]
  · rintro ⟨earlier, m, later, rfl, rfl⟩
    rw [freshNames_append, freshNames]
    exact List.mem_append_right _ List.mem_cons_self

/-- Whether a name is what some member is given that comes after others with its own name: the first numbered one that
those before it leave free. -/
def Numbered (members : List String) (n : String) : Prop :=
  ∃ earlier m later k, members = earlier ++ m :: later ∧ parameterName m ∈ freshNames [] earlier ∧
    n = numberedName (parameterName m) (k + 2) ∧ n ∉ freshNames [] earlier ∧
    ∀ j < k, numberedName (parameterName m) (j + 2) ∈ freshNames [] earlier

theorem mem_freshNames_iff {members : List String} {n : String} :
    n ∈ freshNames [] members ↔ (∃ m ∈ members, parameterName m = n) ∨ Numbered members n := by
  constructor
  · intro h
    obtain ⟨earlier, m, later, hsplit, rfl⟩ := mem_freshNames_split.1 h
    rw [List.nil_append]
    by_cases hm : parameterName m ∈ freshNames [] earlier
    · obtain ⟨k, hname, hfree, hleast⟩ := freshName_of_mem hm
      exact .inr ⟨earlier, m, later, k, hsplit, hm, hname, hname ▸ hfree, hleast⟩
    · rw [freshName_of_notMem hm]
      exact .inl ⟨m, hsplit ▸ by simp, rfl⟩
  · rintro (⟨m, hm, rfl⟩ | ⟨earlier, m, later, k, rfl, hm, rfl, hfree, hleast⟩)
    · obtain ⟨earlier, later, rfl⟩ := List.append_of_mem hm
      by_cases hgiven : parameterName m ∈ freshNames [] earlier
      · rw [freshNames_append]
        exact List.mem_append_left _ hgiven
      · refine mem_freshNames_split.2 ⟨earlier, m, later, rfl, ?_⟩
        rw [List.nil_append, freshName_of_notMem hgiven]
    · refine mem_freshNames_split.2 ⟨earlier, m, later, rfl, ?_⟩
      obtain ⟨i, hname, hfree', hleast'⟩ := freshName_of_mem hm
      rw [List.nil_append, hname]
      -- both numbers are the least that is free
      obtain h | rfl | h := Nat.lt_trichotomy k i
      · exact absurd (hleast' k h) hfree
      · rfl
      · exact absurd (hleast i h) hfree'

lemma underscore_mem_of_numbered {members : List String} {n : String} (h : Numbered members n) : '_' ∈ n.toList := by
  obtain ⟨-, m, -, k, -, -, rfl, -⟩ := h
  simp [numberedName]

end Wiring
