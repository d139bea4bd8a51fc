import Mathlib.Data.List.Forall2
import Mathlib.Data.List.Nodup
import Mathlib.Tactic.Lemma
import Wiring.Proofs.Assoc
import Wiring.Unit.Import

/-!
The names of a unit, and what its import statements bind them to. A name that is given stays. Two types get the same
name only if one is named as it is, as type parameters and builtins are, or under its package.
-/

namespace Wiring

mutual

def TypeRef.mentions : TypeRef → List TypeRef
  | ⟨p, n, as, v⟩ => ⟨p, n, as, v⟩ :: mentionsAll as

def TypeRef.mentionsAll : List TypeRef → List TypeRef
  | [] => []
  | a :: as => mentions a ++ mentionsAll as

end

mutual

def Term.names : Term → List String
  | mk n as => n :: namesAll as

def Term.namesAll : List Term → List String
  | [] => []
  | a :: as => names a ++ namesAll as

end

def ImportStatement.bindings (s : ImportStatement) : List (String × TypeKey) :=
  s.names.map fun n => (n.2, (s.package, n.1))

def importedAs (groups : List (List ImportStatement)) (name : String) : Option TypeKey :=
  Assoc.find? name (Assoc.ofPairs (groups.flatten.flatMap ImportStatement.bindings))

namespace ImportTable

inductive Use where
  | name (r : TypeRef)
  | render (r : TypeRef)
  | require (p n : String)

def Use.named : Use → StateM ImportTable (List (TypeRef × String))
  | .name r => do return [(r, ← ImportTable.name r)]
  | .render r => do return r.mentions.zip (← ImportTable.render r).names
  | .require p n => do return [({ package := p, name := n }, ← ImportTable.require p n)]

def Use.references : Use → List TypeRef
  | .name r => [r]
  | .render r => r.mentions
  | .require p n => [{ package := p, name := n }]

def namedIn : List Use → StateM ImportTable (List (TypeRef × String))
  | [] => return []
  | u :: us => do
    let first ← u.named
    return first ++ (← namedIn us)

variable {own : Option TypeRef} {t t' : ImportTable} {r q : TypeRef} {a : String} {k : TypeKey}

structure Imports (t : ImportTable) (r : TypeRef) : Prop where
  type : r.isTypeParameter = false
  foreign : ¬(r.isBuiltin ∨ r.isPending ∨ r.key ∈ t.defined)

def keyAlias (k : TypeKey) : String :=
  qualifiedAlias { package := k.1, name := k.2 }

lemma keyAlias_key (r : TypeRef) : keyAlias r.key = qualifiedAlias r :=
  rfl

def Knows (t : ImportTable) (r : TypeRef) (a : String) : Prop :=
  t.nameOf r = (a, t)

/-- A simple name is given once, to the type that the unit defines or to the first that is imported. -/
structure Sound (own : Option TypeRef) (t : ImportTable) : Prop where
  defined : t.defined = own.toList.map TypeRef.key
  keys : (t.aliases.map Prod.fst).Nodup
  taken : ∀ k a, Assoc.find? k t.aliases = some a → (Assoc.find? a t.taken).isSome
  takenOwn : ∀ r ∈ own, (Assoc.find? r.name t.taken).isSome
  owner : ∀ a k, Assoc.find? a t.taken = some k → Assoc.find? k t.aliases = some a ∨ k ∈ t.defined
  form : ∀ k a, Assoc.find? k t.aliases = some a → a = k.2 ∨ a = keyAlias k
  simple : ∀ k k', Assoc.find? k t.aliases = some k.2 → Assoc.find? k' t.aliases = some k'.2 → k.2 = k'.2 → k = k'
  simpleOwn : ∀ r ∈ own, ∀ k, Assoc.find? k t.aliases = some k.2 → k.2 ≠ r.name

structure Extends (own : Option TypeRef) (t t' : ImportTable) : Prop where
  sound : Sound own t'
  knows : ∀ r a, t.Knows r a → t'.Knows r a

lemma Extends.refl (h : Sound own t) : Extends own t t where
  sound := h
  knows _ _ hr := hr

lemma Extends.trans {t'' : ImportTable} (h : Extends own t t') (h' : Extends own t' t'') : Extends own t t'' where
  sound := h'.sound
  knows r a hr := h'.knows r a (h.knows r a hr)

/-! Naming one reference. -/

lemma nameOf_of_typeParameter (h : r.isTypeParameter) :
    t.nameOf r = (r.name, if r.name ∈ t.typeVariables then t
      else { t with typeVariables := t.typeVariables ++ [r.name] }) := by
  rw [nameOf, if_pos h]

lemma nameOf_of_plain (hr : r.isTypeParameter = false) (h : r.isBuiltin ∨ r.isPending ∨ r.key ∈ t.defined) :
    t.nameOf r = (r.name, t) := by
  rw [nameOf, if_neg (by simp [hr]), if_pos h]

lemma Imports.nameOf_of_alias (h : t.Imports r) (ha : Assoc.find? r.key t.aliases = some a) :
    t.nameOf r = (a, t) := by
  rw [nameOf, if_neg (by simp [h.type]), if_neg h.foreign, ha]

lemma Imports.nameOf_of_new (h : t.Imports r) (ha : Assoc.find? r.key t.aliases = none) :
    t.nameOf r = (t.freeAlias r, { t with
      aliases := Assoc.put r.key (t.freeAlias r) t.aliases
      taken := Assoc.put (t.freeAlias r) r.key t.taken }) := by
  rw [nameOf, if_neg (by simp [h.type]), if_neg h.foreign, ha]

lemma imports_or (t : ImportTable) (r : TypeRef) :
    r.isTypeParameter ∨ (r.isTypeParameter = false ∧ (r.isBuiltin ∨ r.isPending ∨ r.key ∈ t.defined)) ∨
      t.Imports r := by
  cases hr : r.isTypeParameter with
  | true => exact Or.inl rfl
  | false =>
    by_cases h : r.isBuiltin ∨ r.isPending ∨ r.key ∈ t.defined
    · exact Or.inr (Or.inl ⟨rfl, h⟩)
    · exact Or.inr (Or.inr ⟨hr, h⟩)

lemma Imports.knows_iff (h : t.Imports r) : t.Knows r a ↔ Assoc.find? r.key t.aliases = some a := by
  constructor
  · intro hknows
    rw [Knows] at hknows
    cases ha : Assoc.find? r.key t.aliases with
    | some b =>
      rw [h.nameOf_of_alias ha] at hknows
      rw [(Prod.mk.inj hknows).1]
    | none =>
      rw [h.nameOf_of_new ha] at hknows
      have haliases := congrArg (fun p => Assoc.find? r.key p.2.aliases) hknows
      simp only [Assoc.find?_put_self, ha] at haliases
      cases haliases
  · exact h.nameOf_of_alias

lemma knows_nameOf (t : ImportTable) (r : TypeRef) : (t.nameOf r).2.Knows r (t.nameOf r).1 := by
  obtain hr | ⟨hr, hplain⟩ | himports := imports_or t r
  · rw [nameOf_of_typeParameter hr, Knows, nameOf_of_typeParameter hr]
    by_cases hmem : r.name ∈ t.typeVariables
    · simp only [if_pos hmem]
    · simp only [if_neg hmem]
      rw [if_pos (by simp)]
  · rw [nameOf_of_plain hr hplain, Knows, nameOf_of_plain hr hplain]
  · cases ha : Assoc.find? r.key t.aliases with
    | some a => rw [himports.nameOf_of_alias ha, Knows, himports.nameOf_of_alias ha]
    | none =>
      rw [himports.nameOf_of_new ha]
      exact Imports.nameOf_of_alias ⟨himports.type, himports.foreign⟩ (Assoc.find?_put_self _ _ _)

lemma nameOf_cases (t : ImportTable) (q : TypeRef) :
    (∃ added, (t.nameOf q).2 = { t with typeVariables := t.typeVariables ++ added }) ∨
      t.Imports q ∧ Assoc.find? q.key t.aliases = none ∧
        (t.nameOf q).2 = { t with
          aliases := Assoc.put q.key (t.freeAlias q) t.aliases
          taken := Assoc.put (t.freeAlias q) q.key t.taken } := by
  have hnothing : { t with typeVariables := t.typeVariables ++ [] } = t := by rw [List.append_nil]
  obtain hq | ⟨hq, hplain⟩ | himports := imports_or t q
  · rw [nameOf_of_typeParameter hq]
    by_cases hmem : q.name ∈ t.typeVariables
    · exact Or.inl ⟨[], by rw [if_pos hmem, hnothing]⟩
    · exact Or.inl ⟨[q.name], by rw [if_neg hmem]⟩
  · exact Or.inl ⟨[], by rw [nameOf_of_plain hq hplain, hnothing]⟩
  · cases ha : Assoc.find? q.key t.aliases with
    | some a => exact Or.inl ⟨[], by rw [himports.nameOf_of_alias ha, hnothing]⟩
    | none => exact Or.inr ⟨himports, rfl, by rw [himports.nameOf_of_new ha]⟩

lemma defined_nameOf (t : ImportTable) (q : TypeRef) : (t.nameOf q).2.defined = t.defined := by
  obtain ⟨added, h⟩ | ⟨-, -, h⟩ := nameOf_cases t q <;> rw [h]

lemma aliases_nameOf (ha : Assoc.find? k t.aliases = some a) (q : TypeRef) :
    Assoc.find? k (t.nameOf q).2.aliases = some a := by
  obtain ⟨added, h⟩ | ⟨-, hnone, h⟩ := nameOf_cases t q
  · rw [h]
    exact ha
  · rw [h]
    refine (Assoc.find?_put_of_ne (fun heq => ?_) _ _).trans ha
    cases (heq ▸ ha).symm.trans hnone

lemma typeVariables_nameOf (t : ImportTable) (q : TypeRef) : t.typeVariables ⊆ (t.nameOf q).2.typeVariables := by
  obtain ⟨added, h⟩ | ⟨-, -, h⟩ := nameOf_cases t q
  · rw [h]
    exact List.subset_append_left _ _
  · rw [h]
    exact List.Subset.refl _

lemma knows_typeParameter_iff (hr : r.isTypeParameter) : t.Knows r a ↔ a = r.name ∧ r.name ∈ t.typeVariables := by
  rw [Knows, nameOf_of_typeParameter hr, Prod.mk.injEq]
  refine and_congr eq_comm ⟨fun h => ?_, fun h => if_pos h⟩
  by_contra hnot
  rw [if_neg hnot] at h
  have hlength := congrArg (fun t => t.typeVariables.length) h
  simp at hlength

lemma Knows.nameOf (h : t.Knows r a) (q : TypeRef) : (t.nameOf q).2.Knows r a := by
  obtain hr | ⟨hr, hplain⟩ | himports := imports_or t r
  · rw [knows_typeParameter_iff hr] at h ⊢
    exact ⟨h.1, typeVariables_nameOf t q h.2⟩
  · rw [Knows, nameOf_of_plain hr hplain] at h
    rw [Knows, nameOf_of_plain hr (by rwa [defined_nameOf]), (Prod.mk.inj h).1]
  · have himports' : (t.nameOf q).2.Imports r := ⟨himports.type, by rw [defined_nameOf]; exact himports.foreign⟩
    rw [himports.knows_iff] at h
    exact himports'.knows_iff.2 (aliases_nameOf h q)

/-! Simple names are given once. -/

lemma qualifiedAlias_ne (r : TypeRef) : qualifiedAlias r ≠ r.name := by
  intro h
  have hlength := congrArg String.length h
  rw [qualifiedAlias, String.length_append, String.length_append] at hlength
  have hunderscore : "_".length = 1 := rfl
  omega

lemma Sound.freeAlias_cases (h : Sound own t) (himports : t.Imports q)
    (hnone : Assoc.find? q.key t.aliases = none) :
    t.freeAlias q = q.name ∧ Assoc.find? q.name t.taken = none ∨ t.freeAlias q = qualifiedAlias q := by
  rw [freeAlias]
  cases htaken : Assoc.find? q.name t.taken with
  | none => exact Or.inl ⟨rfl, rfl⟩
  | some k =>
    refine Or.inr (if_neg fun hk => ?_)
    subst hk
    obtain halias | hdefined := h.owner q.name q.key htaken
    · cases hnone.symm.trans halias
    · exact himports.foreign (Or.inr (Or.inr hdefined))

lemma Sound.put (h : Sound own t) (himports : t.Imports q) (hnone : Assoc.find? q.key t.aliases = none) :
    Sound own { t with
      aliases := Assoc.put q.key (t.freeAlias q) t.aliases
      taken := Assoc.put (t.freeAlias q) q.key t.taken } := by
  have hfree := h.freeAlias_cases himports hnone
  have haliases : ∀ {k a}, Assoc.find? k (Assoc.put q.key (t.freeAlias q) t.aliases) = some a →
      k = q.key ∧ a = t.freeAlias q ∨ Assoc.find? k t.aliases = some a := by
    intro k a hk
    rw [Assoc.find?_put] at hk
    split at hk
    · rename_i hkey
      exact Or.inl ⟨hkey.symm, (Option.some.inj hk).symm⟩
    · exact Or.inr hk
  -- the alias is the simple name only where nobody has taken this
  have hnew : q.name = t.freeAlias q → Assoc.find? q.name t.taken = none := by
    intro heq
    obtain ⟨-, htaken⟩ | hqualified := hfree
    · exact htaken
    · exact absurd (heq.trans hqualified).symm (qualifiedAlias_ne q)
  have halone : ∀ k, Assoc.find? k t.aliases = some k.2 → q.name = t.freeAlias q → k.2 ≠ q.name := by
    intro k hk heq hname
    have htaken := h.taken k _ hk
    rw [hname, hnew heq] at htaken
    cases htaken
  refine ⟨h.defined, ?_, fun k a hk => ?_, fun r hr => Assoc.isSome_find?_put (h.takenOwn r hr), fun a k hk => ?_,
    fun k a hk => ?_, fun k k' hk hk' hname => ?_, fun r hr k hk => ?_⟩
  · rw [Assoc.keys_put, if_neg ((Assoc.find?_eq_none_iff _ _).1 hnone)]
    refine List.nodup_append.2 ⟨h.keys, List.nodup_singleton _, fun k hk k' hk' heq => ?_⟩
    rw [heq, List.mem_singleton.1 hk'] at hk
    exact (Assoc.find?_eq_none_iff _ _).1 hnone hk
  · obtain ⟨-, rfl⟩ | hk := haliases hk
    · rw [Assoc.find?_put_self]
      rfl
    · exact Assoc.isSome_find?_put (h.taken k a hk)
  · rw [Assoc.find?_put] at hk
    split at hk
    · rename_i heq
      cases hk
      exact Or.inl (heq ▸ Assoc.find?_put_self _ _ _)
    · obtain halias | hdefined := h.owner a k hk
      · refine Or.inl ((Assoc.find?_put_of_ne (fun heq => ?_) _ _).trans halias)
        cases (heq ▸ halias).symm.trans hnone
      · exact Or.inr hdefined
  · obtain ⟨rfl, rfl⟩ | hk := haliases hk
    · exact hfree.imp And.left id
    · exact h.form k a hk
  · obtain ⟨rfl, hfirst⟩ | hk := haliases hk
    · obtain ⟨rfl, -⟩ | hk' := haliases hk'
      · rfl
      · exact absurd hname.symm (halone k' hk' hfirst)
    · obtain ⟨rfl, hfirst⟩ | hk' := haliases hk'
      · exact absurd hname (halone k hk hfirst)
      · exact h.simple k k' hk hk' hname
  · obtain ⟨rfl, hfirst⟩ | hk := haliases hk
    · intro hname
      have htaken := h.takenOwn r hr
      rw [← hname, TypeRef.key, hnew hfirst] at htaken
      cases htaken
    · exact h.simpleOwn r hr k hk

lemma Sound.nameOf (h : Sound own t) (q : TypeRef) : Sound own (t.nameOf q).2 := by
  obtain ⟨added, hq⟩ | ⟨himports, hnone, hq⟩ := nameOf_cases t q
  · rw [hq]
    exact ⟨h.defined, h.keys, h.taken, h.takenOwn, h.owner, h.form, h.simple, h.simpleOwn⟩
  · rw [hq]
    exact h.put himports hnone

lemma sound_create (own : Option TypeRef) (bounds : List TypeBound) : Sound own (create own.toList bounds) := by
  refine ⟨rfl, List.nodup_nil, fun _ _ h => (by cases h), fun r hr => ?_, fun a k h => ?_, fun _ _ h => (by cases h),
    fun _ _ h => (by cases h), fun _ _ _ h => (by cases h)⟩
  · cases hr
    exact congrArg Option.isSome (Assoc.find?_put_self r.name r.key [])
  · cases own with
    | none => cases h
    | some r =>
      have hmem := Assoc.mem_of_find?_eq_some h
      cases List.mem_singleton.1 hmem
      exact Or.inr (List.mem_singleton_self _)

lemma extends_nameOf (h : Sound own t) (r : TypeRef) : Extends own t (t.nameOf r).2 where
  sound := h.nameOf r
  knows _ _ hknows := hknows.nameOf r

mutual

theorem render_spec : (r : TypeRef) → {t : ImportTable} → Sound own t →
    Extends own t ((render r).run t).2 ∧
      List.Forall₂ ((render r).run t).2.Knows r.mentions ((render r).run t).1.names
  | ⟨p, n, as, v⟩, t, h => by
    have hfirst := extends_nameOf h ⟨p, n, as, v⟩
    obtain ⟨hrest, hknows⟩ := renderAll_spec as hfirst.sound
    refine ⟨hfirst.trans hrest, ?_⟩
    rw [TypeRef.mentions]
    exact .cons (hrest.knows _ _ (knows_nameOf t _)) hknows

theorem renderAll_spec : (rs : List TypeRef) → {t : ImportTable} → Sound own t →
    Extends own t ((renderAll rs).run t).2 ∧
      List.Forall₂ ((renderAll rs).run t).2.Knows (TypeRef.mentionsAll rs) (Term.namesAll ((renderAll rs).run t).1)
  | [], _, h => ⟨.refl h, .nil⟩
  | r :: rs, t, h => by
    obtain ⟨hfirst, hknows⟩ := render_spec r h
    obtain ⟨hrest, hknows'⟩ := renderAll_spec rs hfirst.sound
    refine ⟨hfirst.trans hrest, ?_⟩
    rw [TypeRef.mentionsAll]
    exact List.rel_append (hknows.imp fun _ _ hr => hrest.knows _ _ hr) hknows'

end

lemma Use.named_spec (h : Sound own t) (u : Use) :
    Extends own t (u.named.run t).2 ∧ (u.named.run t).1.map Prod.fst = u.references ∧
      ∀ e ∈ (u.named.run t).1, (u.named.run t).2.Knows e.1 e.2 := by
  cases u with
  | name r =>
    refine ⟨extends_nameOf h r, rfl, fun e he => ?_⟩
    obtain rfl := List.mem_singleton.1 he
    exact knows_nameOf t r
  | require p n =>
    refine ⟨extends_nameOf h { package := p, name := n }, rfl, fun e he => ?_⟩
    obtain rfl := List.mem_singleton.1 he
    exact knows_nameOf t _
  | render r =>
    obtain ⟨hextends, hknows⟩ := render_spec r h
    exact ⟨hextends, List.map_fst_zip (Nat.le_of_eq hknows.length_eq), fun e he => List.forall₂_zip hknows he⟩

lemma namedIn_spec (h : Sound own t) (uses : List Use) :
    Extends own t ((namedIn uses).run t).2 ∧
      ((namedIn uses).run t).1.map Prod.fst = uses.flatMap Use.references ∧
      ∀ e ∈ ((namedIn uses).run t).1, ((namedIn uses).run t).2.Knows e.1 e.2 := by
  induction uses generalizing t with
  | nil => exact ⟨.refl h, rfl, fun e he => (by cases he)⟩
  | cons u us ih =>
    obtain ⟨hfirst, hreferences, hknows⟩ := u.named_spec h
    obtain ⟨hrest, hreferences', hknows'⟩ := ih hfirst.sound
    refine ⟨hfirst.trans hrest, ?_, fun e he => ?_⟩
    · rw [List.flatMap_cons, ← hreferences, ← hreferences', ← List.map_append]
      rfl
    · obtain he | he := List.mem_append.1 he
      · exact hrest.knows _ _ (hknows e he)
      · exact hknows' e he

/-! Import statements. -/

lemma mem_bindings_iff (t : ImportTable) {e : String × TypeKey} :
    e ∈ t.statements.flatMap ImportStatement.bindings ↔ (e.2, e.1) ∈ t.aliases := by
  simp only [statements, sortTexts, List.mem_flatMap, List.mem_map, List.mem_mergeSort, List.mem_eraseDups,
    ImportStatement.bindings]
  constructor
  · rintro ⟨_, ⟨p, -, rfl⟩, n, hn, rfl⟩
    obtain ⟨b, hb, rfl⟩ := List.mem_map.1 (List.mem_mergeSort.1 hn)
    obtain ⟨hmem, hp⟩ := List.mem_filter.1 hb
    obtain rfl := of_decide_eq_true hp
    exact hmem
  · intro h
    refine ⟨_, ⟨e.2.1, ⟨_, h, rfl⟩, rfl⟩, (e.2.2, e.1), ?_, rfl⟩
    exact List.mem_mergeSort.2 (List.mem_map.2 ⟨_, List.mem_filter.2 ⟨h, decide_eq_true rfl⟩, rfl⟩)

def groups (t : ImportTable) : List (List ImportStatement) :=
  [t.statements.filter (·.package ∈ standardPackages),
    t.statements.filter (·.package ∉ standardPackages)].filter (!·.isEmpty)

lemma mem_bindings_groups_iff (t : ImportTable) {e : String × TypeKey} :
    e ∈ t.groups.flatten.flatMap ImportStatement.bindings ↔ (e.2, e.1) ∈ t.aliases := by
  rw [← mem_bindings_iff, List.mem_flatMap, List.mem_flatMap]
  refine exists_congr fun s => and_congr_left fun _ => ?_
  rw [List.mem_flatten]
  constructor
  · rintro ⟨g, hg, hs⟩
    obtain ⟨hg, -⟩ := List.mem_filter.1 hg
    obtain rfl | hg := List.mem_cons.1 hg
    · exact (List.mem_filter.1 hs).1
    · rw [List.mem_singleton.1 hg] at hs
      exact (List.mem_filter.1 hs).1
  · intro hs
    by_cases hp : s.package ∈ standardPackages
    · have hmem : s ∈ t.statements.filter (·.package ∈ standardPackages) :=
        List.mem_filter.2 ⟨hs, decide_eq_true hp⟩
      refine ⟨_, List.mem_filter.2 ⟨List.mem_cons_self, ?_⟩, hmem⟩
      simpa using List.ne_nil_of_mem hmem
    · have hmem : s ∈ t.statements.filter (·.package ∉ standardPackages) :=
        List.mem_filter.2 ⟨hs, decide_eq_true hp⟩
      refine ⟨_, List.mem_filter.2 ⟨List.mem_cons_of_mem _ (List.mem_singleton_self _), ?_⟩, hmem⟩
      simpa using List.ne_nil_of_mem hmem

lemma importGroups_spec (t : ImportTable) :
    ∃ t', importGroups.run t = (t'.groups, t') ∧ ∀ {own}, Sound own t → Extends own t t' := by
  rw [importGroups]
  change ∃ t' : ImportTable, (if (!t.typeVariables.isEmpty) = true then _ else _ : StateM ImportTable _).run t =
    (t'.groups, t') ∧ ∀ {own}, Sound own t → Extends own t t'
  split
  · exact ⟨_, rfl, fun h => extends_nameOf h { package := "typing", name := "TypeVar" }⟩
  · exact ⟨t, rfl, fun h => .refl h⟩

lemma Sound.eq_or_qualified (h : Sound own t) {k' : TypeKey} (hk : Assoc.find? k t.aliases = some a)
    (hk' : Assoc.find? k' t.aliases = some a) :
    k = k' ∨ a = keyAlias k ∨
      a = keyAlias k' := by
  obtain rfl | hqualified := h.form k a hk
  · obtain hname | hqualified := h.form k' _ hk'
    · exact Or.inl (h.simple k k' hk (hname ▸ hk') hname)
    · exact Or.inr (Or.inr hqualified)
  · exact Or.inr (Or.inl hqualified)

lemma Sound.importedAs_groups (h : Sound own t) (hk : Assoc.find? k t.aliases = some a) :
    ∃ k', importedAs t.groups a = some k' ∧ Assoc.find? k' t.aliases = some a := by
  have hbound : (a, k) ∈ t.groups.flatten.flatMap ImportStatement.bindings :=
    (mem_bindings_groups_iff t).2 (Assoc.mem_of_find?_eq_some hk)
  rw [importedAs, Assoc.find?_ofPairs]
  cases hfind : Assoc.find? a (t.groups.flatten.flatMap ImportStatement.bindings).reverse with
  | none =>
    refine absurd ?_ ((Assoc.find?_eq_none_iff _ _).1 hfind)
    exact List.mem_map.2 ⟨_, List.mem_reverse.2 hbound, rfl⟩
  | some k' =>
    have hmem := List.mem_reverse.1 (Assoc.mem_of_find?_eq_some hfind)
    exact ⟨k', rfl, Assoc.find?_of_mem h.keys ((mem_bindings_groups_iff t).1 hmem)⟩

lemma importedAs_groups_eq_none (h : a ∉ t.aliases.map Prod.snd) : importedAs t.groups a = none := by
  rw [importedAs, Assoc.find?_ofPairs, Assoc.find?_eq_none_iff, List.map_reverse, List.mem_reverse]
  intro hbound
  obtain ⟨⟨_, k⟩, hmem, rfl⟩ := List.mem_map.1 hbound
  exact h (List.mem_map_of_mem ((mem_bindings_groups_iff t).1 hmem))

lemma Sound.imported (h : Sound own t) (himports : t.Imports r) (hr : t.Knows r a) :
    ∃ k, importedAs t.groups a = some k ∧ (k = r.key ∨ a = qualifiedAlias r ∨ a = keyAlias k) := by
  have halias := himports.knows_iff.1 hr
  obtain ⟨k, hbound, hk⟩ := h.importedAs_groups halias
  rw [← keyAlias_key]
  exact ⟨k, hbound, (h.eq_or_qualified hk halias).imp_right Or.symm⟩

/-! Names told apart. -/

def IsPlain (r : TypeRef) : Prop :=
  r.isTypeParameter ∨ r.isBuiltin

lemma Knows.eq_of_key_eq {b : String} (h : t.Knows r a) (h' : t.Knows q b) (hkey : r.key = q.key)
    (hkind : r.isTypeParameter = q.isTypeParameter) : a = b := by
  obtain ⟨p, n, as, v⟩ := r
  obtain ⟨p', n', as', v'⟩ := q
  cases hkey
  cases hkind
  exact (Prod.mk.inj (h.symm.trans h')).1

lemma Sound.knows_cases (h : Sound own t) (hr : t.Knows r a) (hplain : ¬IsPlain r) (hpending : ¬r.isPending) :
    (∃ o ∈ own, o.key = r.key ∧ a = o.name) ∨ Assoc.find? r.key t.aliases = some a := by
  obtain htype | ⟨htype, hforeign⟩ | himports := imports_or t r
  · exact absurd (Or.inl htype) hplain
  · rw [Knows, nameOf_of_plain htype hforeign] at hr
    obtain hbuiltin | hp | hdefined := hforeign
    · exact absurd (Or.inr hbuiltin) hplain
    · exact absurd hp hpending
    · rw [h.defined] at hdefined
      obtain ⟨o, ho, hkey⟩ := List.mem_map.1 hdefined
      exact Or.inl ⟨o, Option.mem_toList.1 ho, hkey, (Prod.mk.inj hr).1.symm.trans (congrArg Prod.snd hkey).symm⟩
  · exact Or.inr (himports.knows_iff.1 hr)

lemma Sound.qualified_of_own (h : Sound own t) {o : TypeRef} (ho : o ∈ own)
    (hk : Assoc.find? k t.aliases = some o.name) : o.name = keyAlias k := by
  obtain hname | hqualified := h.form k _ hk
  · exact absurd hname.symm (h.simpleOwn o ho k (hname ▸ hk))
  · exact hqualified

lemma Sound.told_apart (h : Sound own t) {e e' : TypeRef × String}
    (he : (∃ o ∈ own, o.key = e.1.key ∧ e.2 = o.name) ∨ Assoc.find? e.1.key t.aliases = some e.2)
    (he' : (∃ o ∈ own, o.key = e'.1.key ∧ e'.2 = o.name) ∨ Assoc.find? e'.1.key t.aliases = some e'.2)
    (hname : e.2 = e'.2) : e.1.key = e'.1.key ∨ e.2 = qualifiedAlias e.1 ∨ e.2 = qualifiedAlias e'.1 := by
  rw [← keyAlias_key, ← keyAlias_key]
  obtain ⟨o, ho, hkey, heq⟩ | halias := he
  · obtain ⟨o', ho', hkey', -⟩ | halias' := he'
    · cases ho.symm.trans ho'
      exact Or.inl (hkey.symm.trans hkey')
    · rw [← hname, heq] at halias'
      rw [heq]
      exact Or.inr (Or.inr (h.qualified_of_own ho halias'))
  · obtain ⟨o', ho', hkey', heq'⟩ | halias' := he'
    · rw [hname, heq'] at halias
      rw [hname, heq']
      exact Or.inr (Or.inl (h.qualified_of_own ho' halias))
    · exact h.eq_or_qualified halias (hname ▸ halias')

lemma Sound.told_apart_or_plain (h : Sound own t) {e e' : TypeRef × String}
    (he : ¬IsPlain e.1 → (∃ o ∈ own, o.key = e.1.key ∧ e.2 = o.name) ∨ Assoc.find? e.1.key t.aliases = some e.2)
    (he' : ¬IsPlain e'.1 → (∃ o ∈ own, o.key = e'.1.key ∧ e'.2 = o.name) ∨ Assoc.find? e'.1.key t.aliases = some e'.2)
    (hname : e.2 = e'.2) :
    (e.1.key = e'.1.key ∧ e.1.isTypeParameter = e'.1.isTypeParameter) ∨ IsPlain e.1 ∨ IsPlain e'.1 ∨
      e.2 = qualifiedAlias e.1 ∨ e.2 = qualifiedAlias e'.1 := by
  by_cases hplain : IsPlain e.1
  · exact Or.inr (Or.inl hplain)
  by_cases hplain' : IsPlain e'.1
  · exact Or.inr (Or.inr (Or.inl hplain'))
  have hkind : e.1.isTypeParameter = e'.1.isTypeParameter :=
    (Bool.eq_false_iff.2 fun ht => hplain (Or.inl ht)).trans
      (Bool.eq_false_iff.2 fun ht => hplain' (Or.inl ht)).symm
  obtain hkey | hqualified := h.told_apart (he hplain) (he' hplain') hname
  · exact Or.inl ⟨hkey, hkind⟩
  · exact Or.inr (Or.inr (Or.inr hqualified))

/-- A name that is given stays. Of two types under one name one is named as it is or goes under its package, and so it
is where an import is not what its name stands for in the end. -/
theorem names_told_apart (own : Option TypeRef) (bounds : List TypeBound) (uses : List Use) :
    let (named, t) := (namedIn uses).run (create own.toList bounds)
    let (groups, _) := importGroups.run t
    let known := named ++ own.toList.map fun r => (r, r.name)
    named.map Prod.fst = uses.flatMap Use.references ∧
      (∀ e ∈ named, ∀ e' ∈ named, e.1.key = e'.1.key → e.1.isTypeParameter = e'.1.isTypeParameter → e.2 = e'.2) ∧
      (∀ e ∈ known, ∀ e' ∈ known, ¬e.1.isPending → ¬e'.1.isPending → e.2 = e'.2 →
        (e.1.key = e'.1.key ∧ e.1.isTypeParameter = e'.1.isTypeParameter) ∨ IsPlain e.1 ∨ IsPlain e'.1 ∨
          e.2 = qualifiedAlias e.1 ∨ e.2 = qualifiedAlias e'.1) ∧
      ∀ e ∈ named, t.Imports e.1 → ∃ k, importedAs groups e.2 = some k ∧
        (k = e.1.key ∨ e.2 = qualifiedAlias e.1 ∨ e.2 = keyAlias k) := by
  obtain ⟨hextends, hreferences, hknows⟩ := namedIn_spec (sound_create own bounds) uses
  cases hrun : (namedIn uses).run (create own.toList bounds) with
  | mk named t =>
    rw [hrun] at hextends hreferences hknows
    obtain ⟨t', hgroups, hall⟩ := importGroups_spec t
    have hextends' : Extends own t t' := hall hextends.sound
    simp only [hgroups]
    refine ⟨hreferences, ?_, ?_, ?_⟩
    · exact fun e he e' he' hkey hkind => (hknows e he).eq_of_key_eq (hknows e' he') hkey hkind
    · have hcases : ∀ e ∈ named ++ own.toList.map (fun r => (r, r.name)), ¬e.1.isPending → ¬IsPlain e.1 →
          (∃ o ∈ own, o.key = e.1.key ∧ e.2 = o.name) ∨ Assoc.find? e.1.key t.aliases = some e.2 := by
        intro e he hpending hplain
        obtain he | he := List.mem_append.1 he
        · exact hextends.sound.knows_cases (hknows e he) hplain hpending
        · obtain ⟨o, ho, rfl⟩ := List.mem_map.1 he
          exact Or.inl ⟨o, Option.mem_toList.1 ho, rfl, rfl⟩
      exact fun e he e' he' hpending hpending' =>
        hextends.sound.told_apart_or_plain (hcases e he hpending) (hcases e' he' hpending')
    · intro e he himports
      have himports' : t'.Imports e.1 := by
        refine ⟨himports.type, ?_⟩
        rw [hextends'.sound.defined, ← hextends.sound.defined]
        exact himports.foreign
      exact hextends'.sound.imported himports' (hextends'.knows _ _ (hknows e he))

end ImportTable

/-! Units that use texts and types of other packages. -/

namespace Readers

open ImportTable

def text : TypeRef where
  package := "builtins"
  name := "str"

def user (package : String) : TypeRef where
  package
  name := "User"

def uses : List Use :=
  [.render { package := "app", name := "Page", arguments := [user "app"] }, .name (user "shop")]

theorem user_imported :
    ∃ t, (namedIn uses).run {} = ([({ package := "app", name := "Page", arguments := [user "app"] }, "Page"),
        (user "app", "User"), (user "shop", "shop_User")], t) ∧
      importedAs (importGroups.run t).1 "User" = some (user "app").key := by
  refine ⟨_, rfl, ?_⟩
  obtain ⟨-, -, -, h⟩ := names_told_apart none [] uses
  obtain ⟨k, hk, rfl | hqualified | hqualified⟩ := h (user "app", "User") (by decide) ⟨rfl, by decide⟩
  · exact hk
  · exact absurd hqualified (by decide)
  · have hunderscore : '_' ∈ (keyAlias k).toList := by simp [keyAlias, qualifiedAlias]
    rw [← hqualified] at hunderscore
    exact absurd hunderscore (by decide)

theorem text_conflated :
    ∃ t, (namedIn [.name text, .name { text with package := "app" }]).run {} =
        ([(text, "str"), ({ text with package := "app" }, "str")], t) ∧
      importedAs (importGroups.run t).1 "str" = some ("app", "str") ∧ ¬text.isPending ∧
      ¬({ text with package := "app" } : TypeRef).isPending ∧
      text.key ≠ ({ text with package := "app" } : TypeRef).key :=
  ⟨_, rfl, by decide +kernel, by decide, by decide, by decide⟩

end Readers

end Wiring
