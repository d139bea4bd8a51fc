import Mathlib.Data.List.Forall2
import Wiring.Assoc

/-!
Looking up in lists of pairs. Pairs put one after the other answer with the last one of a key, keys that are zipped
with values with the value in the same place.
-/

namespace Wiring.Assoc

variable {α β : Type} [DecidableEq α] {k : α} {ks : List α} {vs : List β}

lemma find?_append (k : α) (ps qs : List (α × β)) : find? k (ps ++ qs) = (find? k ps).or (find? k qs) := by
  induction ps with
  | nil => rfl
  | cons p ps ih => by_cases h : p.1 = k <;> simp [find?, h, ih]

lemma find?_put (j k : α) (v : β) (m : List (α × β)) :
    find? j (put k v m) = if k = j then some v else find? j m := by
  split
  · rename_i h
    rw [h, find?_put_self]
  · rename_i h
    exact find?_put_of_ne (Ne.symm h) v m

lemma isSome_find?_put {j : α} {v : β} {m : List (α × β)} (h : (find? j m).isSome) :
    (find? j (put k v m)).isSome := by
  rw [find?_put]
  split
  · rfl
  · exact h

lemma find?_ofPairs (k : α) (ps : List (α × β)) : find? k (ofPairs ps) = find? k ps.reverse := by
  have h : ∀ m : List (α × β), find? k (ps.foldl (fun m p => put p.1 p.2 m) m) =
      (find? k ps.reverse).or (find? k m) := by
    induction ps with
    | nil => exact fun m => rfl
    | cons p ps ih =>
      intro m
      rw [List.foldl_cons, ih, List.reverse_cons, find?_append, find?_put]
      by_cases hp : p.1 = k <;> cases find? k ps.reverse <;> simp [find?, hp]
  rw [ofPairs, h, find?_nil, Option.or_none]

lemma put_of_notMem {v : β} {m : List (α × β)} (h : k ∉ m.map Prod.fst) : put k v m = m ++ [(k, v)] := by
  induction m with
  | nil => rfl
  | cons p m ih =>
    rw [List.map_cons, List.mem_cons, not_or] at h
    rw [put, if_neg (Ne.symm h.1), ih h.2, List.cons_append]

lemma ofPairs_of_nodup {ps : List (α × β)} (h : (ps.map Prod.fst).Nodup) : ofPairs ps = ps := by
  have hfold : ∀ m : List (α × β), ((m ++ ps).map Prod.fst).Nodup →
      ps.foldl (fun m p => put p.1 p.2 m) m = m ++ ps := by
    clear h
    induction ps with
    | nil => exact fun m _ => (List.append_nil m).symm
    | cons p ps ih =>
      intro m hm
      have hp : p.1 ∉ m.map Prod.fst := by
        rw [List.map_append, List.nodup_append] at hm
        exact fun h => hm.2.2 p.1 h p.1 List.mem_cons_self rfl
      rw [List.append_cons] at hm ⊢
      rw [List.foldl_cons, put_of_notMem hp, ih _ hm]
  exact hfold [] h

lemma find?_eq_none_iff (k : α) (ps : List (α × β)) : find? k ps = none ↔ k ∉ ps.map Prod.fst := by
  induction ps with
  | nil => simp
  | cons p ps ih => by_cases h : p.1 = k <;> simp [find?, h, ih, eq_comm (a := k)]

lemma mem_of_find?_eq_some {ps : List (α × β)} {v : β} (h : find? k ps = some v) : (k, v) ∈ ps := by
  induction ps with
  | nil => cases h
  | cons p ps ih =>
    by_cases hp : p.1 = k
    · rw [find?, if_pos hp] at h
      cases h
      exact hp ▸ List.mem_cons_self
    · rw [find?, if_neg hp] at h
      exact List.mem_cons_of_mem p (ih h)

lemma find?_of_mem {ps : List (α × β)} {v : β} (hnodup : (ps.map Prod.fst).Nodup) (h : (k, v) ∈ ps) :
    find? k ps = some v := by
  induction ps with
  | nil => cases h
  | cons p ps ih =>
    rw [List.map_cons, List.nodup_cons] at hnodup
    obtain rfl | h := List.mem_cons.1 h
    · exact if_pos rfl
    · have hne : p.1 ≠ k := fun heq => hnodup.1 (heq ▸ List.mem_map_of_mem h)
      exact (if_neg hne).trans (ih hnodup.2 h)

lemma find?_zip_append {us : List β} {as : List α} (hk : k ∉ as) (hl : as.length = us.length) (v : β) :
    find? k ((as ++ k :: ks).zip (us ++ v :: vs)) = some v := by
  have has : find? k (as.zip us) = none := by
    rw [find?_eq_none_iff, List.map_fst_zip (Nat.le_of_eq hl)]
    exact hk
  rw [List.zip_append hl, find?_append, has, List.zip_cons_cons, Option.none_or, find?, if_pos rfl]

lemma mapM_find?_zip {us : List β} {as : List α} (hn : (as ++ ks).Nodup) (ha : as.length = us.length)
    (hk : ks.length = vs.length) : ks.mapM (find? · ((as ++ ks).zip (us ++ vs))) = some vs := by
  induction ks generalizing as us vs with
  | nil =>
    cases vs with
    | nil => rfl
    | cons v vs => cases hk
  | cons k ks ih =>
    cases vs with
    | nil => cases hk
    | cons v vs =>
      have hka : k ∉ as := fun h => (List.nodup_append.1 hn).2.2 k h k List.mem_cons_self rfl
      have htail : ks.mapM (find? · ((as ++ [k] ++ ks).zip (us ++ [v] ++ vs))) = some vs :=
        ih (by simpa using hn) (by simp [ha]) (Nat.succ.inj hk)
      simp only [List.append_assoc, List.singleton_append] at htail
      rw [List.mapM_cons, find?_zip_append hka ha, htail]
      rfl

lemma mapM_eq_some_iff {γ δ : Type} {f : γ → Option δ} {l : List γ} {l' : List δ} :
    l.mapM f = some l' ↔ List.Forall₂ (fun a b => f a = some b) l l' := by
  induction l generalizing l' with
  | nil => cases l' <;> simp
  | cons a l ih =>
    cases ha : f a with
    | none => cases l' <;> simp [ha]
    | some b => cases l' <;> cases h : l.mapM f <;> simp [ha, h, ← ih]

lemma filterMap_of_mapM_eq_some {γ δ : Type} {f : γ → Option δ} {l : List γ} {l' : List δ} (h : l.mapM f = some l') :
    l.filterMap f = l' := by
  have hall := mapM_eq_some_iff.1 h
  clear h
  induction hall with
  | nil => rfl
  | cons hab _ ih => rw [List.filterMap_cons, hab, ih]

lemma forall₂_find?_zip (hn : ks.Nodup) (hk : ks.length = vs.length) :
    List.Forall₂ (fun k v => find? k (ks.zip vs) = some v) ks vs := by
  have h : ks.mapM (find? · (([] ++ ks).zip ([] ++ vs))) = some vs := mapM_find?_zip hn rfl hk
  exact mapM_eq_some_iff.1 h

lemma mapM_find?_zip_take (hn : ks.Nodup) (hk : ks.length = vs.length) (n : Nat) :
    (ks.take n).mapM (find? · (ks.zip vs)) = some (vs.take n) :=
  mapM_eq_some_iff.2 (List.forall₂_take n (forall₂_find?_zip hn hk))

lemma mapM_find?_zip_drop (hn : ks.Nodup) (hk : ks.length = vs.length) (n : Nat) :
    (ks.drop n).mapM (find? · (ks.zip vs)) = some (vs.drop n) :=
  mapM_eq_some_iff.2 (List.forall₂_drop n (forall₂_find?_zip hn hk))

lemma exists_last_place (h : k ∈ ks) : ∃ i, ks[i]? = some k ∧ k ∉ ks.drop (i + 1) := by
  induction ks with
  | nil => cases h
  | cons k' ks ih =>
    by_cases hk : k ∈ ks
    · obtain ⟨i, hi, hlast⟩ := ih hk
      exact ⟨i + 1, hi, hlast⟩
    · have hk' : k = k' := (List.mem_cons.1 h).resolve_right hk
      exact ⟨0, by rw [hk']; rfl, hk⟩

lemma find?_ofPairs_zip {i : Nat} {v : β} (hk : ks[i]? = some k) (hv : vs[i]? = some v)
    (hlast : k ∉ ks.drop (i + 1)) : find? k (ofPairs (ks.zip vs)) = some v := by
  rw [find?_ofPairs]
  induction ks generalizing vs i with
  | nil => cases hk
  | cons k' ks ih =>
    cases vs with
    | nil => cases hv
    | cons v' vs =>
      rw [List.zip_cons_cons, List.reverse_cons, find?_append]
      cases i with
      | zero =>
        cases hk
        cases hv
        have hnone : find? k (ks.zip vs).reverse = none := by
          rw [find?_eq_none_iff, List.map_reverse, List.mem_reverse]
          intro h
          obtain ⟨p, hp, rfl⟩ := List.mem_map.1 h
          exact hlast (List.of_mem_zip hp).1
        rw [hnone, Option.none_or, find?, if_pos rfl]
      | succ i => rw [ih hk hv hlast, Option.some_or]

lemma exists_find?_ofPairs_zip {γ : Type} (h : k ∈ ks) (hl : ks.length = vs.length) (f : β → γ) :
    ∃ v ∈ vs, find? k (ofPairs (ks.zip vs)) = some v ∧ find? k (ofPairs (ks.zip (vs.map f))) = some (f v) := by
  obtain ⟨i, hi, hlast⟩ := exists_last_place h
  have hlt : i < vs.length := hl ▸ (List.getElem?_eq_some_iff.1 hi).1
  have hv : vs[i]? = some vs[i] := List.getElem?_eq_getElem hlt
  refine ⟨vs[i], List.getElem_mem hlt, find?_ofPairs_zip hi hv hlast, find?_ofPairs_zip hi ?_ hlast⟩
  rw [List.getElem?_map, hv, Option.map_some]

end Wiring.Assoc
