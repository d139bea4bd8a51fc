import Mathlib.Data.List.Nodup
import Wiring.Proofs.Assoc
import Wiring.Proofs.Except
import Wiring.Sink.Memory

/-!
Units kept in memory: all of a list if their names differ, and then as they came.
-/

namespace Wiring.MemorySink

variable {s s' : MemorySink} {u : SourceUnit} {us : List SourceUnit}

def keyed (us : List SourceUnit) : List (String × SourceUnit) :=
  us.map fun u => (u.name, u)

lemma add_eq_ok : s.add u = .ok s' ↔ u.name ∉ s.names ∧ s' = { units := s.units ++ [(u.name, u)] } := by
  have hcontains : Assoc.contains u.name s.units = false ↔ u.name ∉ s.names := by
    rw [Assoc.contains, Option.isSome_eq_false_iff, Option.isNone_iff_eq_none, Assoc.find?_eq_none_iff, names]
  by_cases h : u.name ∈ s.names
  · have htrue : Assoc.contains u.name s.units = true := by
      rw [← Bool.not_eq_false, hcontains, not_not]
      exact h
    exact iff_of_false (by rw [add, if_pos htrue]; exact fun h => by cases h) fun hadd => hadd.1 h
  · rw [add, hcontains.2 h, if_neg Bool.false_ne_true, Assoc.put_of_notMem h]
    constructor
    · rintro ⟨⟩
      exact ⟨h, rfl⟩
    · rintro ⟨-, rfl⟩
      rfl

lemma addAll_from_eq_ok : us.foldlM add s = .ok s' ↔
    (us.map (·.name)).Nodup ∧ (∀ u ∈ us, u.name ∉ s.names) ∧ s' = { units := s.units ++ keyed us } := by
  induction us generalizing s with
  | nil =>
    simp only [List.foldlM_nil, List.map_nil, List.nodup_nil, List.not_mem_nil, keyed, List.append_nil, true_and,
      false_implies, implies_true]
    exact ⟨fun h => by cases h; rfl, fun h => by rw [h]; rfl⟩
  | cons u us ih =>
    rw [List.foldlM_cons, Except.bind_eq_ok]
    constructor
    · rintro ⟨middle, hfirst, hrest⟩
      obtain ⟨hnew, rfl⟩ := add_eq_ok.1 hfirst
      obtain ⟨hnodup, hothers, rfl⟩ := ih.1 hrest
      simp only [names, List.map_append, List.mem_append, List.map_cons, List.map_nil, List.mem_singleton,
        not_or] at hothers
      refine ⟨List.nodup_cons.2 ⟨fun hmem => ?_, hnodup⟩,
        List.forall_mem_cons.2 ⟨hnew, fun v hv => (hothers v hv).1⟩, by simp [keyed]⟩
      obtain ⟨v, hv, hvu⟩ := List.mem_map.1 hmem
      exact (hothers v hv).2 hvu
    · rintro ⟨hnodup, hothers, rfl⟩
      rw [List.map_cons, List.nodup_cons] at hnodup
      obtain ⟨hnew, hothers⟩ := List.forall_mem_cons.1 hothers
      refine ⟨_, add_eq_ok.2 ⟨hnew, rfl⟩, ih.2 ⟨hnodup.2, fun v hv => ?_, by simp [keyed]⟩⟩
      simp only [names, List.map_append, List.mem_append, List.map_cons, List.map_nil, List.mem_singleton, not_or]
      exact ⟨hothers v hv, fun heq => hnodup.1 (heq ▸ List.mem_map_of_mem hv)⟩

theorem addAll_eq_ok : addAll {} us = .ok s ↔ (us.map (·.name)).Nodup ∧ s = { units := keyed us } := by
  rw [addAll, addAll_from_eq_ok]
  simp [names]

end Wiring.MemorySink
