import Mathlib.Data.List.Perm.Subperm
import Mathlib.Tactic.Lemma
import Wiring.Conventions
import Wiring.Proofs.Except

/-!
Base chains of accepted declarations. Which names a walk has met decides whether it fails, not where it goes: the
chain of a type continues from its base as the chain of the base itself.
-/

namespace Wiring

namespace DeclarationSet

variable {s : DeclarationSet} {v : List String} {d : TypeDeclaration} {m : Bindings} {as : List Ancestor}

lemma chainFrom_cases (h : s.chainFrom v d m = .ok as) :
    (s.classBase? d = none ∧ as = []) ∨
      ∃ r b rest, s.classBase? d = some (r, b) ∧ b.fullName ∉ v ∧
        s.chainFrom (v ++ [b.fullName]) b (b.ref.bindings (r.substitute m)) = .ok rest ∧
        as = ⟨b, r.substitute m⟩ :: rest := by
  rw [chainFrom] at h
  split at h
  · rename_i hb
    exact Or.inl ⟨hb, by cases h; rfl⟩
  · rename_i r b hb
    split at h
    · cases h
    · rename_i hv
      cases hr : s.chainFrom (v ++ [b.fullName]) b (b.ref.bindings (r.substitute m)) with
      | error e =>
        simp only [Ancestor.bindings, hr] at h
        cases h
      | ok rest =>
        simp only [Ancestor.bindings, hr] at h
        cases h
        exact Or.inr ⟨r, b, rest, hb, hv, hr, rfl⟩

lemma chainFrom_declarations {v' : List String} {m' : Bindings} {as' : List Ancestor}
    (h : s.chainFrom v d m = .ok as) (h' : s.chainFrom v' d m' = .ok as') :
    as.map (·.declaration) = as'.map (·.declaration) := by
  induction as generalizing v v' d m m' as' with
  | nil =>
    rcases chainFrom_cases h with ⟨hb, -⟩ | ⟨r, b, rest, -, -, -, he⟩
    · rcases chainFrom_cases h' with ⟨-, rfl⟩ | ⟨r', b', rest', hb', -⟩
      · rfl
      · rw [hb] at hb'
        cases hb'
    · cases he
  | cons a as ih =>
    rcases chainFrom_cases h with ⟨-, he⟩ | ⟨r, b, rest, hb, -, hrest, he⟩
    · cases he
    · obtain ⟨rfl, rfl⟩ := List.cons.inj he
      rcases chainFrom_cases h' with ⟨hb', -⟩ | ⟨r', b', rest', hb', -, hrest', rfl⟩
      · rw [hb] at hb'
        cases hb'
      · rw [hb] at hb'
        cases hb'
        simp only [List.map_cons, ih hrest hrest']

lemma chain_cases (h : s.chain d = .ok as) :
    (s.classBase? d = none ∧ as = []) ∨
      ∃ r b rest, s.classBase? d = some (r, b) ∧ as = ⟨b, r⟩ :: rest ∧
        ∃ v' m', s.chainFrom v' b m' = .ok rest := by
  rcases chainFrom_cases h with ⟨hb, rfl⟩ | ⟨r, b, rest, hb, -, hrest, rfl⟩
  · exact Or.inl ⟨hb, rfl⟩
  · rw [TypeRef.substitute_nil] at hrest ⊢
    exact Or.inr ⟨r, b, rest, hb, rfl, _, _, hrest⟩

lemma classBase?_eq_some {r : TypeRef} {b : TypeDeclaration} (h : s.classBase? d = some (r, b)) :
    d.base = some r ∧ s.find? r = some b ∧ b.isInterface = false := by
  unfold classBase? at h
  split at h
  · cases h
  · rename_i base hbase
    split at h
    · cases h
    · split at h
      · cases h
      · rename_i b' hf
        split at h
        · cases h
        · rename_i hi
          cases h
          exact ⟨hbase, hf, by simpa using hi⟩

lemma find?_eq_some_of_mem {ts : List TypeDeclaration} (hn : (ts.map TypeDeclaration.key).Nodup) (hd : d ∈ ts) :
    ts.find? (·.key = d.key) = some d := by
  induction ts with
  | nil => cases hd
  | cons e ts ih =>
    rw [List.map_cons, List.nodup_cons] at hn
    rcases List.mem_cons.1 hd with rfl | hd
    · simp
    · have he : e.key ≠ d.key := fun h => hn.1 (h ▸ List.mem_map_of_mem hd)
      rw [List.find?_cons_of_neg (by simpa using he), ih hn.2 hd]

lemma eq_of_key_eq {e : TypeDeclaration} (hd : d ∈ s.types) (he : e ∈ s.types) (h : d.key = e.key) : d = e := by
  have hd' := find?_eq_some_of_mem s.keys_nodup hd
  rw [h, find?_eq_some_of_mem s.keys_nodup he] at hd'
  exact (Option.some.inj hd').symm

end DeclarationSet

namespace Conventions

def superclasses (c : Conventions) (d : TypeDeclaration) : List TypeDeclaration :=
  (c.ancestors d).map (·.declaration)

def lineage (c : Conventions) (d : TypeDeclaration) : List TypeDeclaration :=
  d :: c.superclasses d

variable {s : DeclarationSet} {c : Conventions} {d : TypeDeclaration}

lemma find?_chains {ts : List TypeDeclaration} {chains : List (TypeKey × List Ancestor)}
    (hn : (ts.map TypeDeclaration.key).Nodup)
    (h : (ts.mapM fun d => do return (d.key, ← s.chain d) : Except (List String) _) = .ok chains)
    (hd : d ∈ ts) : ∃ as, s.chain d = .ok as ∧ Assoc.find? d.key chains = some as := by
  induction ts generalizing chains with
  | nil => cases hd
  | cons e ts ih =>
    rw [List.map_cons, List.nodup_cons] at hn
    rw [List.mapM_cons] at h
    obtain ⟨first, hfirst, h⟩ := Except.bind_eq_ok.1 h
    obtain ⟨as, has, hfirst⟩ := Except.bind_eq_ok.1 hfirst
    obtain ⟨rest, hrest, h⟩ := Except.bind_eq_ok.1 h
    cases hfirst
    cases h
    rcases List.mem_cons.1 hd with rfl | hd
    · exact ⟨as, has, by simp [Assoc.find?]⟩
    · have hk : e.key ≠ d.key := fun hk => hn.1 (hk ▸ List.mem_map_of_mem hd)
      obtain ⟨bs, hbs, hf⟩ := ih hn.2 hrest hd
      exact ⟨bs, hbs, by simpa [Assoc.find?, hk] using hf⟩

lemma ofDeclarations_cases (hc : ofDeclarations s = .ok c) :
    c.declarations = s ∧ c.links = s.types.filterMap s.link? ∧
      (s.types.mapM fun d => do return (d.key, ← s.chain d) : Except (List String) _) = .ok c.chains := by
  obtain ⟨chains, hchains, hc⟩ := Except.bind_eq_ok.1 hc
  cases hc
  exact ⟨rfl, rfl, hchains⟩

lemma chain_eq_ok (hc : ofDeclarations s = .ok c) (hd : d ∈ s.types) : s.chain d = .ok (c.ancestors d) := by
  obtain ⟨as, has, hf⟩ := find?_chains s.keys_nodup (ofDeclarations_cases hc).2.2 hd
  rw [has, ancestors, hf, Option.getD_some]

lemma ancestors_cases (hc : ofDeclarations s = .ok c) (hd : d ∈ s.types) :
    (s.classBase? d = none ∧ c.ancestors d = []) ∨
      ∃ r b rest, s.classBase? d = some (r, b) ∧ b ∈ s.types ∧ c.ancestors d = ⟨b, r⟩ :: rest ∧
        rest.map (·.declaration) = c.superclasses b := by
  rcases DeclarationSet.chain_cases (chain_eq_ok hc hd) with h | ⟨r, b, rest, hb, has, v, m, hrest⟩
  · exact Or.inl h
  · have hbs := DeclarationSet.mem_of_classBase? hb
    exact Or.inr ⟨r, b, rest, hb, hbs, has,
      DeclarationSet.chainFrom_declarations hrest (chain_eq_ok hc hbs)⟩

lemma superclasses_of_root (hc : ofDeclarations s = .ok c) (hd : d ∈ s.types) (h : s.classBase? d = none) :
    c.superclasses d = [] := by
  rcases ancestors_cases hc hd with ⟨-, ha⟩ | ⟨r, b, rest, hb, -⟩
  · rw [superclasses, ha, List.map_nil]
  · rw [h] at hb
    cases hb

lemma superclasses_of_derived (hc : ofDeclarations s = .ok c) (hd : d ∈ s.types) {r : TypeRef} {b : TypeDeclaration}
    (h : s.classBase? d = some (r, b)) : c.superclasses d = c.lineage b := by
  rcases ancestors_cases hc hd with ⟨hn, -⟩ | ⟨r', b', rest, hb, -, ha, hrest⟩
  · rw [h] at hn
    cases hn
  · rw [h] at hb
    cases hb
    rw [superclasses, ha, List.map_cons, hrest, lineage]

@[elab_as_elim]
theorem lineage_induction (hc : ofDeclarations s = .ok c) {motive : (d : TypeDeclaration) → d ∈ s.types → Prop}
    (root : ∀ d hd, s.classBase? d = none → motive d hd)
    (derived : ∀ d hd r b, s.classBase? d = some (r, b) → ∀ hb, motive b hb → motive d hd)
    (d : TypeDeclaration) (hd : d ∈ s.types) : motive d hd := by
  induction hn : (c.superclasses d).length generalizing d with
  | zero =>
    rcases ancestors_cases hc hd with ⟨hb, -⟩ | ⟨r, b, rest, hb, -⟩
    · exact root d hd hb
    · rw [superclasses_of_derived hc hd hb] at hn
      cases hn
  | succ n ih =>
    rcases ancestors_cases hc hd with ⟨hb, -⟩ | ⟨r, b, rest, hb, hbs, -⟩
    · exact root d hd hb
    · rw [superclasses_of_derived hc hd hb] at hn
      exact derived d hd r b hb hbs (ih b hbs (Nat.succ.inj hn))

lemma mem_types_of_mem_lineage (hc : ofDeclarations s = .ok c) (hd : d ∈ s.types) {e : TypeDeclaration}
    (he : e ∈ c.lineage d) : e ∈ s.types := by
  induction d, hd using lineage_induction hc with
  | root d hd hb =>
    rw [lineage, superclasses_of_root hc hd hb] at he
    exact List.mem_singleton.1 he ▸ hd
  | derived d hd r b hb _ ih =>
    rw [lineage, superclasses_of_derived hc hd hb] at he
    rcases List.mem_cons.1 he with rfl | he
    · exact hd
    · exact ih he

lemma mem_types_of_mem_ancestors (hc : ofDeclarations s = .ok c) (hd : d ∈ s.types) {a : Ancestor}
    (ha : a ∈ c.ancestors d) : a.declaration ∈ s.types :=
  mem_types_of_mem_lineage hc hd (List.mem_cons_of_mem d (List.mem_map_of_mem ha))

theorem lineage_suffix (hc : ofDeclarations s = .ok c) (hd : d ∈ s.types) {e : TypeDeclaration}
    {pre post : List TypeDeclaration} (h : c.lineage d = pre ++ e :: post) : post = c.superclasses e := by
  induction d, hd using lineage_induction hc generalizing pre with
  | root d hd hb =>
    rw [lineage, superclasses_of_root hc hd hb] at h
    cases pre with
    | nil =>
      obtain ⟨rfl, rfl⟩ := List.cons.inj h
      exact (superclasses_of_root hc hd hb).symm
    | cons p pre => simp at h
  | derived d hd r b hb _ ih =>
    rw [lineage, superclasses_of_derived hc hd hb] at h
    cases pre with
    | nil =>
      obtain ⟨rfl, rfl⟩ := List.cons.inj h
      exact (superclasses_of_derived hc hd hb).symm
    | cons p pre => exact ih (List.cons.inj h).2

lemma lineage_nodup (hc : ofDeclarations s = .ok c) (hd : d ∈ s.types) : (c.lineage d).Nodup := by
  induction d, hd using lineage_induction hc with
  | root d hd hb =>
    rw [lineage, superclasses_of_root hc hd hb]
    simp
  | derived d hd r b hb hbs ih =>
    rw [lineage, superclasses_of_derived hc hd hb]
    refine List.nodup_cons.2 ⟨fun hmem => ?_, ih⟩
    obtain ⟨pre, post, hsplit⟩ := List.append_of_mem hmem
    have hpost : post = c.lineage b := (lineage_suffix hc hbs hsplit).trans (superclasses_of_derived hc hd hb)
    have hlength := congrArg List.length hsplit
    rw [hpost, List.length_append, List.length_cons] at hlength
    omega

lemma length_lineage_le (hc : ofDeclarations s = .ok c) (hd : d ∈ s.types) : (c.lineage d).length ≤ s.types.length :=
  ((lineage_nodup hc hd).subperm fun _ he => mem_types_of_mem_lineage hc hd he).length_le

end Conventions

end Wiring
