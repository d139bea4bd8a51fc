/-!
Association lists with distinct keys, in the order in which the keys were first put. Looking up after
`put` sees the last value, and putting a known key keeps its place.
-/

namespace Wiring.Assoc

variable {α β : Type} [DecidableEq α]

def put (k : α) (v : β) : List (α × β) → List (α × β)
  | [] => [(k, v)]
  | (k', v') :: r => if k' = k then (k, v) :: r else (k', v') :: put k v r

def find? (k : α) : List (α × β) → Option β
  | [] => none
  | (k', v) :: r => if k' = k then some v else find? k r

def contains (k : α) (m : List (α × β)) : Bool :=
  (find? k m).isSome

def ofPairs (ps : List (α × β)) : List (α × β) :=
  ps.foldl (fun m p => put p.1 p.2 m) []

@[simp] theorem find?_nil (k : α) : find? k ([] : List (α × β)) = none := rfl

@[simp] theorem find?_put_self (k : α) (v : β) (m : List (α × β)) : find? k (put k v m) = some v := by
  induction m with
  | nil => simp [put, find?]
  | cons p r ih =>
    by_cases h : p.1 = k
    · simp [put, find?, h]
    · simp [put, find?, h, ih]

theorem find?_put_of_ne {k j : α} (h : j ≠ k) (v : β) (m : List (α × β)) :
    find? j (put k v m) = find? j m := by
  induction m with
  | nil => simp [put, find?, Ne.symm h]
  | cons p r ih =>
    by_cases hk : p.1 = k
    · simp [put, find?, hk, Ne.symm h]
    · by_cases hj : p.1 = j
      · simp [put, find?, hj, h]
      · simp [put, find?, hk, hj, ih]

theorem keys_put (k : α) (v : β) (m : List (α × β)) :
    (put k v m).map Prod.fst = if k ∈ m.map Prod.fst then m.map Prod.fst else m.map Prod.fst ++ [k] := by
  induction m with
  | nil => simp [put]
  | cons p r ih =>
    by_cases h : p.1 = k
    · simp [put, h]
    · simp only [put, h, if_false, List.map_cons, ih, List.mem_cons, Ne.symm h, false_or]
      split <;> simp

end Wiring.Assoc
