import Wiring.File.Tree
import Wiring.Proofs.Assoc
import Wiring.Proofs.Except

/-!
What is left alone when a tree changes. A way leads through directories only, so what is put where no directory is
turns no way aside; and a directory that is there already is made again without a change.
-/

namespace Wiring

lemma Text.pieces_of_not_mem {mark : Char} {cs : List Char} (h : mark ∉ cs) : Text.pieces mark cs = [cs] := by
  induction cs with
  | nil => rfl
  | cons c cs ih =>
    rw [List.mem_cons, not_or] at h
    rw [Text.pieces, if_neg (Ne.symm h.1), ih h.2]

namespace Path

structure IsEntry (name : String) : Prop where
  noSlash : '/' ∉ name.toList
  ne_empty : name ≠ ""
  ne_here : name ≠ "."
  ne_up : name ≠ ".."

lemma below_of_isEntry (p : Path) {name : String} (h : IsEntry name) :
    p.below name = { p with parts := p.parts ++ [name] } := by
  have hroot : (ofText name).root = "" := by
    have hnone : name.toList.takeWhile (· = '/') = [] := by
      cases hcs : name.toList with
      | nil => rfl
      | cons c cs =>
        have hc : c ≠ '/' := fun hc => h.noSlash (by rw [hcs, hc]; exact List.mem_cons_self)
        simp [hc]
    simp [ofText, rootOf, hnone]
  have hparts : (ofText name).parts = [name] := by
    simp [ofText, Text.pieces_of_not_mem h.noSlash, h.ne_empty, h.ne_here]
  rw [below, hparts, if_pos hroot]

end Path

namespace FileTree

variable {t t' : FileTree} {p : Path} {place here there : List String} {n : FileNode} {ps qs : List String}
  {part : String} {content : ByteArray}

lemma node?_put (hne : there ≠ []) : (t.put there n).node? place = if place = there then some n else t.node? place := by
  rw [node?, node?, put, Assoc.find?_put]
  by_cases hplace : place = []
  · rw [if_pos hplace, if_pos hplace, if_neg (hplace ▸ Ne.symm hne)]
  · rw [if_neg hplace, if_neg hplace]
    by_cases h : there = place
    · rw [if_pos h, if_pos h.symm]
    · rw [if_neg h, if_neg (Ne.symm h)]

lemma ne_nil_of_node? (h : t.node? place ≠ some .directory) : place ≠ [] := by
  rintro rfl
  exact h rfl

lemma walk_cons_eq_ok : t.walk here (part :: ps) = .ok place ↔
    (part = ".." ∧ here ≠ [] ∧ t.walk here.dropLast ps = .ok place) ∨
      part ≠ ".." ∧ part.utf8ByteSize ≤ longestName ∧
        (t.node? (here ++ [part]) = some .directory ∧ t.walk (here ++ [part]) ps = .ok place ∨
          t.node? (here ++ [part]) ≠ some .directory ∧ ps = [] ∧ here ++ [part] = place) := by
  rw [walk]
  by_cases hup : part = ".."
  · by_cases hroot : here = [] <;> simp [hup, hroot]
  · by_cases hlong : longestName < part.utf8ByteSize
    · simp [hup, hlong, Nat.not_le.2 hlong]
    · cases hnode : t.node? (here ++ [part]) with
      | none => cases ps <;> simp [hup, hlong, hnode, Nat.le_of_not_lt hlong]
      | some n =>
        cases n with
        | directory => simp [hup, hlong, hnode, Nat.le_of_not_lt hlong]
        | file content => cases ps <;> simp [hup, hlong, hnode, Nat.le_of_not_lt hlong]

lemma walk_put (hn : t.node? there ≠ some .directory) (h : t.walk here ps = .ok place) :
    (t.put there n).walk here ps = .ok place := by
  induction ps generalizing here with
  | nil => exact h
  | cons part ps ih =>
    rw [walk_cons_eq_ok] at h ⊢
    rw [node?_put (ne_nil_of_node? hn)]
    obtain ⟨hup, hroot, h⟩ | ⟨hup, hlong, ⟨hdirectory, h⟩ | ⟨hother, rfl, rfl⟩⟩ := h
    · exact Or.inl ⟨hup, hroot, ih h⟩
    · have hne : here ++ [part] ≠ there := fun heq => hn (heq ▸ hdirectory)
      exact Or.inr ⟨hup, hlong, Or.inl ⟨by rw [if_neg hne, hdirectory], ih h⟩⟩
    · refine Or.inr ⟨hup, hlong, ?_⟩
      split
      · cases n with
        | directory => exact Or.inl ⟨rfl, rfl⟩
        | file content => exact Or.inr ⟨by simp, rfl, rfl⟩
      · exact Or.inr ⟨hother, rfl, rfl⟩

lemma walk_append (hplace : t.node? place = some .directory) (h : t.walk here ps = .ok place) :
    t.walk here (ps ++ qs) = t.walk place qs := by
  induction ps generalizing here with
  | nil =>
    cases h
    rfl
  | cons part ps ih =>
    obtain ⟨rfl, hroot, h⟩ | ⟨hup, hlong, ⟨hdirectory, h⟩ | ⟨hother, -, rfl⟩⟩ := walk_cons_eq_ok.1 h
    · rw [List.cons_append, walk, if_pos rfl, if_neg hroot, ih h]
    · rw [List.cons_append, walk, if_neg hup, if_neg (Nat.not_lt.2 hlong)]
      simp only [hdirectory]
      exact ih h
    · exact absurd hplace hother

lemma any_eq_false_of_not_mem {text : String} {c : Char} (h : c ∉ text.toList) : text.any (· = c) = false := by
  rw [String.any, String.contains_prop_eq, List.any_eq_false]
  rintro a ha heq
  exact h (of_decide_eq_true heq ▸ ha)

lemma locate_eq_walk (hnull : '\x00' ∉ p.text.toList) (hlong : p.text.utf8ByteSize ≤ longestPath)
    (hroot : p.root = "") : t.locate p = t.walk [] p.parts := by
  rw [locate, any_eq_false_of_not_mem hnull, if_neg Bool.false_ne_true, if_neg (Nat.not_lt.2 hlong), if_pos hroot]

lemma locate_put (hn : t.node? there ≠ some .directory) (h : t.locate p = .ok place) :
    (t.put there n).locate p = .ok place := by
  unfold locate at h ⊢
  split
  · rename_i hnull
    rw [if_pos hnull] at h
    cases h
  · rename_i hnull
    rw [if_neg hnull] at h
    split
    · rename_i hlong
      rw [if_pos hlong] at h
      cases h
    · rename_i hlong
      rw [if_neg hlong] at h
      split
      · rename_i hroot
        rw [if_pos hroot] at h
        exact walk_put hn h
      · rename_i hroot
        rwa [if_neg hroot] at h

lemma walk_congr (h : ∀ place, t.node? place = some .directory ↔ t'.node? place = some .directory) :
    t.walk here ps = .ok place ↔ t'.walk here ps = .ok place := by
  induction ps generalizing here with
  | nil => rfl
  | cons part ps ih => simp only [walk_cons_eq_ok, ih, ne_eq, h]

lemma locate_congr (h : ∀ place, t.node? place = some .directory ↔ t'.node? place = some .directory) :
    t.locate p = .ok place ↔ t'.locate p = .ok place := by
  unfold locate
  split
  · rfl
  · split
    · rfl
    · split
      · exact walk_congr h
      · rfl

lemma isDirectory_put_file (hn : t.node? there ≠ some .directory) (place : List String) :
    (t.put there (.file content)).node? place = some .directory ↔ t.node? place = some .directory := by
  rw [node?_put (ne_nil_of_node? hn)]
  split
  · rename_i hplace
    exact iff_of_false (by simp) (hplace ▸ hn)
  · rfl

/-! Directories that are there. -/

def Holds (t : FileTree) (p : Path) (place : List String) : Prop :=
  t.locate p = .ok place ∧ t.node? place = some .directory

lemma Holds.put (h : t.Holds p place) (hn : t.node? there ≠ some .directory) : (t.put there n).Holds p place := by
  refine ⟨locate_put hn h.1, ?_⟩
  have hne : place ≠ there := fun heq => hn (heq ▸ h.2)
  rw [node?_put (ne_nil_of_node? hn), if_neg hne, h.2]

lemma holds_of_isDirectory (h : t.isDirectory p) : ∃ place, t.Holds p place := by
  unfold isDirectory at h
  split at h
  · rename_i place hlocate
    split at h
    · rename_i hdirectory
      exact ⟨place, hlocate, hdirectory⟩
    · cases h
  · cases h

lemma makeDirectory_eq_ok (h : t.makeDirectory p = .ok t') : ∃ place, t'.Holds p place := by
  obtain ⟨place, hlocate, h⟩ := Except.bind_eq_ok.1 h
  cases hnode : t.node? place with
  | some n =>
    rw [hnode] at h
    cases h
  | none =>
    rw [hnode] at h
    cases h
    have hn : t.node? place ≠ some .directory := by simp [hnode]
    exact ⟨place, locate_put hn hlocate, by rw [node?_put (ne_nil_of_node? hn), if_pos rfl]⟩

lemma run_bind {α β : Type} (x : StateM FileTree α) (f : α → StateM FileTree β) (t : FileTree) :
    (x >>= f) t = f (x t).1 (x t).2 :=
  rfl

lemma accept_eq_ok {fault : FileFault} (h : system.accept fault t = (.ok (), t')) :
    t' = t ∧ ∃ place, t.Holds fault.path place := by
  unfold FileSystem.accept at h
  split at h
  · cases h
  · rw [run_bind] at h
    cases hdirectory : t.isDirectory fault.path with
    | false =>
      simp only [system, hdirectory] at h
      cases h
    | true =>
      simp only [system, hdirectory] at h
      cases h
      exact ⟨rfl, holds_of_isDirectory hdirectory⟩

lemma makeDirectory_cases (t : FileTree) (p : Path) :
    (∃ t', system.makeDirectory p t = (.ok (), t') ∧ ∃ place, t'.Holds p place) ∨
      ∃ fault, system.makeDirectory p t = (.error fault, t) := by
  cases h : t.makeDirectory p with
  | ok t' => exact Or.inl ⟨t', by simp only [system, change, h], makeDirectory_eq_ok h⟩
  | error reason => exact Or.inr ⟨{ reason, path := p }, by simp only [system, change, h]⟩

lemma ensureOne_eq_ok (h : system.ensureOne p t = (.ok (), t')) : ∃ place, t'.Holds p place := by
  rw [FileSystem.ensureOne, run_bind] at h
  obtain ⟨t₁, hmake, hholds⟩ | ⟨fault, hmake⟩ := makeDirectory_cases t p
  · simp only [hmake] at h
    cases h
    exact hholds
  · simp only [hmake] at h
    obtain ⟨rfl, hholds⟩ := accept_eq_ok h
    exact hholds

lemma ensureDirectory_eq_ok (h : system.ensureDirectory p t = (.ok (), t')) : ∃ place, t'.Holds p place := by
  rw [FileSystem.ensureDirectory, run_bind] at h
  obtain ⟨t₁, hmake, hholds⟩ | ⟨fault, hmake⟩ := makeDirectory_cases t p
  · simp only [hmake] at h
    cases h
    exact hholds
  · simp only [hmake] at h
    split at h
    · rw [run_bind] at h
      cases hparent : system.ensureDirectory p.parent t with
      | mk result t₁ =>
        rw [hparent] at h
        cases result with
        | ok _ => exact ensureOne_eq_ok h
        | error fault => cases h
    · obtain ⟨rfl, hholds⟩ := accept_eq_ok h
      exact hholds

lemma Holds.ensureDirectory (h : t.Holds p place) : system.ensureDirectory p t = (.ok (), t) := by
  have hmake : t.makeDirectory p = .error .alreadyThere := by
    rw [makeDirectory, h.1]
    simp [bind, Except.bind, h.2]
  have hdirectory : t.isDirectory p = true := by simp only [isDirectory, h.1, h.2]
  rw [FileSystem.ensureDirectory, run_bind]
  simp only [system, change, hmake]
  rw [dif_neg (by simp), FileSystem.accept, if_neg (by simp), run_bind]
  simp only [hdirectory, if_pos]
  rfl

/-! Files in a directory. -/

lemma locate_cases (h : t.locate p = .ok place) :
    p.root = "" ∧ t.walk [] p.parts = .ok place ∨ p.root ≠ "" ∧ p.parts = [] ∧ place = [] := by
  unfold locate at h
  split at h
  · cases h
  · split at h
    · cases h
    · split at h
      · rename_i hroot
        exact Or.inl ⟨hroot, h⟩
      · rename_i hroot
        split at h
        · rename_i hparts
          cases h
          exact Or.inr ⟨hroot, hparts, rfl⟩
        · cases h

lemma Holds.locate_below {name : String} (hp : t.Holds p place) (hname : Path.IsEntry name)
    (h : t.locate (p.below name) = .ok there) : there = place ++ [name] := by
  rw [Path.below_of_isEntry p hname] at h
  obtain ⟨hroot, h⟩ | ⟨-, hparts, -⟩ := locate_cases h
  · obtain ⟨-, hwalk⟩ | ⟨hroot', -⟩ := locate_cases hp.1
    · rw [walk_append hp.2 hwalk] at h
      obtain ⟨hup, -⟩ | ⟨-, -, ⟨-, h⟩ | ⟨-, -, h⟩⟩ := walk_cons_eq_ok.1 h
      · exact absurd hup hname.ne_up
      · exact (Except.ok.inj h).symm
      · exact h.symm
    · exact absurd hroot hroot'
  · simp at hparts

lemma write_eq_ok : t.write p content = .ok t' ↔
    ∃ place, t.locate p = .ok place ∧ t.node? place ≠ some .directory ∧ t' = t.put place (.file content) := by
  constructor
  · intro h
    obtain ⟨place, hlocate, h⟩ := Except.bind_eq_ok.1 h
    refine ⟨place, hlocate, ?_⟩
    split at h
    · cases h
    · rename_i hother
      cases h
      exact ⟨hother, rfl⟩
  · rintro ⟨place, hlocate, hother, rfl⟩
    refine Except.bind_eq_ok.2 ⟨place, hlocate, ?_⟩
    split
    · rename_i hdirectory
      exact absurd hdirectory hother
    · rfl

lemma read_eq_ok (hlocate : t.locate p = .ok place) (hnode : t.node? place = some (.file content)) :
    t.read p = .ok content := by
  refine Except.bind_eq_ok.2 ⟨place, hlocate, ?_⟩
  rw [hnode]

end FileTree

end Wiring
