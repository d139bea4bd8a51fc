import Mathlib.Logic.Relation
import Mathlib.Tactic.Lemma
import Wiring.Conventions.Closure

/-!
Walks that go depth first. What a walk has added at its end is closed under the step of the walk, and all of it is
reached from where the walk began.
-/

namespace Wiring

variable {α : Type} {next : α → List α} {roots others seen middle found : List α}

structure Sweeps (next : α → List α) (roots seen found : List α) : Prop where
  grown : seen ⊆ found
  entered : roots ⊆ found
  closed : ∀ x ∈ found, x ∉ seen → next x ⊆ found
  reached : ∀ x ∈ found, x ∉ seen → ∃ a ∈ roots, Relation.ReflTransGen (fun y z => z ∈ next y) a x

namespace Sweeps

lemma nil (next : α → List α) (seen : List α) : Sweeps next [] seen seen where
  grown := List.Subset.refl _
  entered := List.nil_subset _
  closed _ hx hn := absurd hx hn
  reached _ hx hn := absurd hx hn

lemma of_mem {a : α} (h : a ∈ seen) : Sweeps next [a] seen seen where
  grown := List.Subset.refl _
  entered := by simpa using h
  closed _ hx hn := absurd hx hn
  reached _ hx hn := absurd hx hn

lemma append (h : Sweeps next roots seen middle) (h' : Sweeps next others middle found) :
    Sweeps next (roots ++ others) seen found where
  grown := List.Subset.trans h.grown h'.grown
  entered := List.append_subset.2 ⟨List.Subset.trans h.entered h'.grown, h'.entered⟩
  closed x hx hn := by
    by_cases hm : x ∈ middle
    · exact List.Subset.trans (h.closed x hm hn) h'.grown
    · exact h'.closed x hx hm
  reached x hx hn := by
    by_cases hm : x ∈ middle
    · obtain ⟨a, ha, hax⟩ := h.reached x hm hn
      exact ⟨a, List.mem_append_left _ ha, hax⟩
    · obtain ⟨a, ha, hax⟩ := h'.reached x hx hm
      exact ⟨a, List.mem_append_right _ ha, hax⟩

lemma enter {a : α} (h : Sweeps next (next a) (seen ++ [a]) found) : Sweeps next [a] seen found := by
  have hnew : ∀ x, x ∉ seen → x = a ∨ x ∉ seen ++ [a] := by
    intro x hx
    by_cases hxa : x = a
    · exact Or.inl hxa
    · exact Or.inr (by simp [hx, hxa])
  refine ⟨?_, ?_, fun x hx hn => ?_, fun x hx hn => ?_⟩
  · exact List.Subset.trans (List.subset_append_left _ _) h.grown
  · exact List.Subset.trans (List.subset_append_right _ _) h.grown
  · obtain rfl | hxs := hnew x hn
    · exact h.entered
    · exact h.closed x hx hxs
  · refine ⟨a, List.mem_singleton_self a, ?_⟩
    obtain rfl | hxs := hnew x hn
    · exact .refl
    · obtain ⟨b, hb, hbx⟩ := h.reached x hx hxs
      exact .head hb hbx

lemma of_foldlM {f : List α → α → Option (List α)}
    (hf : ∀ seen a found, f seen a = some found → Sweeps next [a] seen found)
    (h : roots.foldlM f seen = some found) : Sweeps next roots seen found := by
  induction roots generalizing seen with
  | nil =>
    cases h
    exact .nil next _
  | cons a roots ih =>
    rw [List.foldlM_cons] at h
    obtain ⟨middle, hmiddle, h⟩ := Option.bind_eq_some_iff.1 h
    exact (hf seen a middle hmiddle).append (ih h)

end Sweeps

lemma visit_sweeps [DecidableEq α] {depth : Nat} {a : α} (h : visit next depth seen a = some found) :
    Sweeps next [a] seen found := by
  induction depth generalizing seen a found with
  | zero =>
    rw [visit] at h
    split at h
    · rename_i ha
      cases h
      exact .of_mem ha
    · cases h
  | succ depth ih =>
    rw [visit] at h
    split at h
    · rename_i ha
      cases h
      exact .of_mem ha
    · exact .enter (.of_foldlM (fun _ _ _ hb => ih hb) h)

namespace Conventions

variable {c : Conventions} {plans : List InterfacePlan} {depth : Nat} {d : TypeDeclaration} {closure : List TypeRef}

lemma interfaceClosure_sweeps (h : c.interfaceClosure plans depth d = some closure) :
    Sweeps (c.parentsOf plans) (c.ownInterfaces plans d ++ (c.ancestors d).flatMap c.inheritedInterfaces) []
      closure :=
  .of_foldlM (fun _ _ _ hvisit => visit_sweeps hvisit) h

lemma parentsOf_subset (h : c.interfaceClosure plans depth d = some closure) {r : TypeRef} (hr : r ∈ closure) :
    c.parentsOf plans r ⊆ closure :=
  (interfaceClosure_sweeps h).closed r hr List.not_mem_nil

end Conventions

end Wiring
