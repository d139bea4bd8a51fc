import Mathlib.Data.List.Chain
import Mathlib.Data.List.Nodup
import Mathlib.Data.List.TakeWhile
import Wiring.Proofs.Conventions.Links

/-!
Circles of bases. A walk along bases ends, since it meets no full name twice; where it fails it has come back to a
name, and where it succeeds for all types no way along bases comes back to anything. Full names say less than package
and name, though, so a walk may also fail where no way comes back to a type.
-/

namespace Wiring

namespace DeclarationSet

variable {s : DeclarationSet} {v names : List String} {d b e : TypeDeclaration} {m : Bindings} {as : List Ancestor}
  {path : List TypeDeclaration}

structure Extends (s : DeclarationSet) (d b : TypeDeclaration) : Prop where
  derived : d ∈ s.types
  base : b ∈ s.types
  isClass : b.isInterface = false
  written : ∃ r, d.base = some r ∧ r.key = b.key ∧ (d.isPlaceholder r → d.isInterface)

def Circular (s : DeclarationSet) : Prop :=
  ∃ path : List TypeDeclaration, path.IsChain s.Extends ∧ ¬(path.map TypeDeclaration.key).Nodup

structure IsCircle (s : DeclarationSet) (names : List String) : Prop where
  length : 2 ≤ names.length
  closed : names.head? = names.getLast?
  linked : names.IsChain fun m n => ∃ d b, s.Extends d b ∧ d.fullName = m ∧ b.fullName = n

lemma any_viaBase_link? :
    (s.link? d).any (·.viaBase) = true ↔ d.isInterface = false ∧ ∃ r, d.base = some r ∧ d.isPlaceholder r = true := by
  unfold link?
  cases hi : d.isInterface with
  | true => simp
  | false =>
    cases hb : d.base with
    | none =>
      simp only [TypeDeclaration.writtenRefs, hb, Option.toList_none, List.map_nil, List.nil_append]
      cases hf : (d.interfaces.map (·, false)).find? fun w => d.isPlaceholder w.1 with
      | none => simp
      | some w =>
        obtain ⟨r, -, rfl⟩ := List.mem_map.1 (List.mem_of_find?_eq_some hf)
        simp
    | some r =>
      simp only [TypeDeclaration.writtenRefs, hb, Option.toList_some, List.map_cons, List.map_nil, List.cons_append,
        List.nil_append, List.find?_cons]
      cases hp : d.isPlaceholder r with
      | true => simp [hp]
      | false =>
        cases hf : (d.interfaces.map (·, false)).find? fun w => d.isPlaceholder w.1 with
        | none => simp [hp]
        | some w =>
          obtain ⟨q, -, rfl⟩ := List.mem_map.1 (List.mem_of_find?_eq_some hf)
          simp [hp]

lemma extends_iff (hd : d ∈ s.types) : s.Extends d b ↔ ∃ r, s.classBase? d = some (r, b) := by
  constructor
  · rintro ⟨-, hb, hclass, r, hr, hkey, hplaceholder⟩
    have hvia : (s.link? d).any (·.viaBase) = false := by
      rw [← Bool.not_eq_true, any_viaBase_link?]
      rintro ⟨hd, q, hq, hp⟩
      cases hr.symm.trans hq
      exact Bool.false_ne_true (hd.symm.trans (hplaceholder hp))
    have hfind : s.find? r = some b := by
      rw [find?, hkey]
      exact get?_key hb
    refine ⟨r, ?_⟩
    simp [classBase?, hr, hvia, hfind, hclass]
  · rintro ⟨r, h⟩
    obtain ⟨hr, hfind, hclass⟩ := classBase?_eq_some h
    refine ⟨hd, mem_of_classBase? h, hclass, r, hr, (get?_mem hfind).2.symm, fun hp => ?_⟩
    by_contra hi
    have hvia : (s.link? d).any (·.viaBase) = true :=
      any_viaBase_link?.2 ⟨by simpa using hi, r, hr, hp⟩
    simp [classBase?, hr, hvia] at h

lemma isChain_snoc (hpath : (path ++ [d]).IsChain s.Extends) (h : s.Extends d b) :
    (path ++ [d] ++ [b]).IsChain s.Extends := by
  rw [List.append_assoc]
  exact List.isChain_append_cons_cons.2 ⟨hpath, h, .singleton b⟩

lemma mem_types_of_isChain (hpath : (path ++ [b]).IsChain s.Extends) (he : e ∈ path) : e ∈ s.types := by
  obtain ⟨pre, post, rfl⟩ := List.append_of_mem he
  have hne : post ++ [b] ≠ [] := List.append_ne_nil_of_right_ne_nil post (List.cons_ne_nil b [])
  obtain ⟨f, rest, hrest⟩ := List.exists_cons_of_ne_nil hne
  rw [List.append_assoc, List.cons_append, hrest] at hpath
  exact (List.isChain_append_cons_cons.1 hpath).2.1.derived

/-! A walk that fails, and one that succeeds. -/

lemma chainFrom_error (hpath : (path ++ [d]).IsChain s.Extends) (hd : d ∈ s.types)
    (hnodup : ((path ++ [d]).map (·.fullName)).Nodup)
    (h : s.chainFrom ((path ++ [d]).map (·.fullName)) d m = .error names) :
    ∃ walked b, (walked ++ [b]).IsChain s.Extends ∧ (walked.map (·.fullName)).Nodup ∧
      b.fullName ∈ walked.map (·.fullName) ∧
      names = (walked.map (·.fullName)).dropWhile (· ≠ b.fullName) ++ [b.fullName] := by
  generalize hv : (path ++ [d]).map (·.fullName) = v at h
  fun_induction s.chainFrom v d m generalizing path with
  | case1 => cases h
  | case2 v d m r b hb hmem =>
    cases h
    have hstep : s.Extends d b := (extends_iff hd).2 ⟨r, hb⟩
    exact ⟨path ++ [d], b, isChain_snoc hpath hstep, hnodup, hv ▸ hmem, by rw [hv]⟩
  | case3 v d m r b hb hmem a =>
    rename_i ih
    have hstep : s.Extends d b := (extends_iff hd).2 ⟨r, hb⟩
    have hnames : (path ++ [d] ++ [b]).map (·.fullName) = v ++ [b.fullName] := by
      rw [List.map_append, hv, List.map_singleton]
    have hfresh : (v ++ [b.fullName]).Nodup := by
      rw [hv] at hnodup
      exact List.nodup_append.2 ⟨hnodup, List.nodup_singleton _, fun x hx y hy hxy =>
        hmem (List.mem_singleton.1 hy ▸ hxy ▸ hx)⟩
    cases hrest : s.chainFrom (v ++ [b.fullName]) b a.bindings with
    | ok rest =>
      rw [hrest] at h
      cases h
    | error names' =>
      rw [hrest] at h
      cases h
      exact ih (isChain_snoc hpath hstep) hstep.base (hnames ▸ hfresh) hnames hrest

lemma chain_error (hd : d ∈ s.types) (h : s.chain d = .error names) :
    ∃ walked b, (walked ++ [b]).IsChain s.Extends ∧ (walked.map (·.fullName)).Nodup ∧
      b.fullName ∈ walked.map (·.fullName) ∧
      names = (walked.map (·.fullName)).dropWhile (· ≠ b.fullName) ++ [b.fullName] := by
  have hstart : ([] ++ [d]).IsChain s.Extends := .singleton d
  exact chainFrom_error hstart hd (List.nodup_singleton _) h

lemma dropWhile_ne_eq_cons {l : List String} {x : String} (h : x ∈ l) : ∃ rest, l.dropWhile (· ≠ x) = x :: rest := by
  cases hl : l.dropWhile (· ≠ x) with
  | nil =>
    have hall := List.dropWhile_eq_nil_iff.1 hl x h
    simp at hall
  | cons y rest =>
    have hhead := List.head_dropWhile_not (· ≠ x) (l := l) (by rw [hl]; exact List.cons_ne_nil y rest)
    simp only [hl, List.head_cons, decide_eq_false_iff_not, not_not] at hhead
    exact ⟨rest, by rw [hhead]⟩

lemma isCircle_of_chain_error (hd : d ∈ s.types) (h : s.chain d = .error names) :
    s.IsCircle names ∧ names.length ≤ s.types.length + 1 := by
  obtain ⟨walked, b, hpath, hnodup, hmem, rfl⟩ := chain_error hd h
  obtain ⟨rest, hrest⟩ := dropWhile_ne_eq_cons hmem
  have hsuffix := List.dropWhile_suffix (l := walked.map (·.fullName)) (· ≠ b.fullName)
  have hlinked : ((walked ++ [b]).map (·.fullName)).IsChain
      fun m n => ∃ d b, s.Extends d b ∧ d.fullName = m ∧ b.fullName = n :=
    List.isChain_map_of_isChain _ (fun d b hdb => ⟨d, b, hdb, rfl, rfl⟩) hpath
  have hdeclared : walked ⊆ s.types := fun e he => mem_types_of_isChain hpath he
  have hlength : walked.length ≤ s.types.length := (hnodup.of_map _ |>.subperm hdeclared).length_le
  refine ⟨⟨?_, ?_, ?_⟩, ?_⟩
  · rw [hrest, List.length_append, List.length_cons, List.length_singleton]
    omega
  · rw [hrest, List.getLast?_append]
    rfl
  · rw [List.map_append] at hlinked
    exact hlinked.suffix ((List.suffix_append_inj_of_length_eq rfl).2 ⟨hsuffix, rfl⟩)
  · have hle := hsuffix.length_le
    simp only [List.length_map] at hle
    simp only [List.length_append, List.length_singleton]
    omega

lemma chainFrom_ok (h : s.chainFrom v d m = .ok as) :
    (as.map (·.declaration.fullName)).Nodup ∧ ∀ n ∈ as.map (·.declaration.fullName), n ∉ v := by
  induction as generalizing v d m with
  | nil => simp
  | cons a as ih =>
    obtain ⟨-, he⟩ | ⟨r, b, rest, -, hv, hrest, he⟩ := chainFrom_cases h
    · cases he
    · obtain ⟨rfl, rfl⟩ := List.cons.inj he
      obtain ⟨hnodup, hfresh⟩ := ih hrest
      constructor
      · refine List.nodup_cons.2 ⟨fun hmem => ?_, hnodup⟩
        exact hfresh _ hmem (List.mem_append_right _ List.mem_cons_self)
      · intro n hn
        rcases List.mem_cons.1 hn with rfl | hn
        · exact hv
        · exact fun hmem => hfresh n hn (List.mem_append_left _ hmem)

end DeclarationSet

namespace Conventions

variable {s : DeclarationSet} {c : Conventions} {d : TypeDeclaration} {names : List String}
  {path : List TypeDeclaration}

lemma exists_chain_error_of_mapM {ts : List TypeDeclaration}
    (h : (ts.mapM fun d => do return (d.key, ← s.chain d) : Except (List String) (List (TypeKey × List Ancestor))) =
      .error names) : ∃ d ∈ ts, s.chain d = .error names := by
  induction ts with
  | nil => cases h
  | cons d ts ih =>
    rw [List.mapM_cons] at h
    cases hd : s.chain d with
    | error n =>
      rw [hd] at h
      cases h
      exact ⟨d, List.mem_cons_self, hd⟩
    | ok as =>
      rw [hd] at h
      cases hts : (ts.mapM fun d => do return (d.key, ← s.chain d) :
          Except (List String) (List (TypeKey × List Ancestor))) with
      | error n =>
        rw [hts] at h
        cases h
        obtain ⟨e, he, hchain⟩ := ih hts
        exact ⟨e, List.mem_cons_of_mem d he, hchain⟩
      | ok chains =>
        rw [hts] at h
        cases h

lemma exists_chain_error (h : ofDeclarations s = .error names) : ∃ d ∈ s.types, s.chain d = .error names := by
  rw [ofDeclarations] at h
  cases hts : (s.types.mapM fun d => do return (d.key, ← s.chain d) :
      Except (List String) (List (TypeKey × List Ancestor))) with
  | error n =>
    rw [hts] at h
    cases h
    exact exists_chain_error_of_mapM hts
  | ok chains =>
    rw [hts] at h
    cases h

lemma nodup_fullNames_lineage (hc : ofDeclarations s = .ok c) (hd : d ∈ s.types) :
    ((c.lineage d).map (·.fullName)).Nodup := by
  obtain ⟨hnodup, hfresh⟩ := DeclarationSet.chainFrom_ok (chain_eq_ok hc hd)
  rw [lineage, superclasses, List.map_cons, List.map_map]
  exact List.nodup_cons.2 ⟨fun hmem => hfresh _ hmem List.mem_cons_self, hnodup⟩

lemma isChain_lineage (hc : ofDeclarations s = .ok c) (hd : d ∈ s.types) : (c.lineage d).IsChain s.Extends := by
  induction d, hd using lineage_induction hc with
  | root d hd hb =>
    rw [lineage, superclasses_of_root hc hd hb]
    exact .singleton d
  | derived d hd r b hb _ ih =>
    rw [lineage, superclasses_of_derived hc hd hb]
    exact .cons_cons ((DeclarationSet.extends_iff hd).2 ⟨r, hb⟩) ih

lemma end_of_lineage (hc : ofDeclarations s = .ok c) (hd : d ∈ s.types) :
    ∀ e ∈ (c.lineage d).getLast?, ∀ b, ¬s.Extends e b := by
  induction d, hd using lineage_induction hc with
  | root d hd hb =>
    rw [lineage, superclasses_of_root hc hd hb]
    rintro e he b hext
    cases he
    obtain ⟨r, hr⟩ := (DeclarationSet.extends_iff hd).1 hext
    cases hb.symm.trans hr
  | derived d hd r b hb _ ih =>
    rw [lineage, superclasses_of_derived hc hd hb, lineage, List.getLast?_cons_cons]
    exact ih

lemma path_isPrefix_lineage (hc : ofDeclarations s = .ok c) (hd : d ∈ s.types)
    (hpath : (d :: path).IsChain s.Extends) : d :: path <+: c.lineage d := by
  induction path generalizing d with
  | nil => exact ⟨_, rfl⟩
  | cons b path ih =>
    obtain ⟨hstep, hrest⟩ := List.isChain_cons_cons.1 hpath
    obtain ⟨r, hr⟩ := (DeclarationSet.extends_iff hd).1 hstep
    rw [lineage, superclasses_of_derived hc hd hr]
    exact (List.prefix_cons_inj d).2 (ih hstep.base hrest)

lemma nodup_fullNames_path (hc : ofDeclarations s = .ok c) (hpath : path.IsChain s.Extends) :
    (path.map (·.fullName)).Nodup := by
  match path, hpath with
  | [], _ => simp
  | [d], _ => simp
  | d :: b :: path, hpath =>
    have hd : d ∈ s.types := (List.isChain_cons_cons.1 hpath).1.derived
    exact (nodup_fullNames_lineage hc hd).sublist ((path_isPrefix_lineage hc hd hpath).sublist.map _)

lemma isOk_iff_nodup_fullNames :
    (∃ c, ofDeclarations s = .ok c) ↔ ∀ path : List TypeDeclaration, path.IsChain s.Extends →
      (path.map (·.fullName)).Nodup := by
  constructor
  · rintro ⟨c, hc⟩ path hpath
    exact nodup_fullNames_path hc hpath
  · intro h
    cases hc : ofDeclarations s with
    | ok c => exact ⟨c, rfl⟩
    | error names =>
      obtain ⟨d, hd, hchain⟩ := exists_chain_error hc
      obtain ⟨walked, b, hpath, -, hmem, -⟩ := DeclarationSet.chain_error hd hchain
      have hnodup := h _ hpath
      rw [List.map_append, List.map_singleton, List.nodup_append] at hnodup
      exact absurd rfl (hnodup.2.2 _ hmem _ List.mem_cons_self)

end Conventions

lemma TypeRef.fullName_eq_of_key_eq {r q : TypeRef} (h : r.key = q.key) : r.fullName = q.fullName := by
  obtain ⟨hpackage, hname⟩ := Prod.mk.inj h
  rw [fullName, fullName, hpackage, hname]

namespace Conventions

variable {s : DeclarationSet} {path : List TypeDeclaration}

lemma nodup_keys_of_fullNames (h : (path.map (·.fullName)).Nodup) : (path.map TypeDeclaration.key).Nodup := by
  rw [List.Nodup, List.pairwise_map] at h ⊢
  exact h.imp fun hne hkey => hne (TypeRef.fullName_eq_of_key_eq hkey)

lemma nodup_fullNames_of_keys (h : (path.map TypeDeclaration.key).Nodup)
    (hnames : ∀ d ∈ path, ∀ e ∈ path, d.fullName = e.fullName → d.key = e.key) : (path.map (·.fullName)).Nodup := by
  rw [List.Nodup, List.pairwise_map] at h ⊢
  exact h.imp_of_mem fun hd he hne hname => hne (hnames _ hd _ he hname)

/-- Circles are found, whatever is found is one, by names, and without one the ancestors of each type follow the
bases to the end of the chain. -/
theorem circles_reported (s : DeclarationSet) :
    (s.Circular → ∃ names, ofDeclarations s = .error names) ∧
      (∀ names, ofDeclarations s = .error names → s.IsCircle names ∧ names.length ≤ s.types.length + 1) ∧
      ∀ c, ofDeclarations s = .ok c → ∀ d ∈ s.types,
        (c.lineage d).IsChain s.Extends ∧ ((c.lineage d).map TypeDeclaration.key).Nodup ∧
          (c.lineage d).length ≤ s.types.length ∧ ∀ e ∈ (c.lineage d).getLast?, ∀ b, ¬s.Extends e b := by
  refine ⟨?_, ?_, ?_⟩
  · rintro ⟨path, hpath, hrepeated⟩
    cases hc : ofDeclarations s with
    | error names => exact ⟨names, rfl⟩
    | ok c => exact absurd (nodup_keys_of_fullNames (nodup_fullNames_path hc hpath)) hrepeated
  · intro names h
    obtain ⟨d, hd, hchain⟩ := exists_chain_error h
    exact DeclarationSet.isCircle_of_chain_error hd hchain
  · intro c hc d hd
    exact ⟨isChain_lineage hc hd, nodup_keys_of_fullNames (nodup_fullNames_lineage hc hd), length_lineage_le hc hd,
      end_of_lineage hc hd⟩

end Conventions

/-! Menus. The items of one hold each other, the courses of another one follow each other. -/

namespace Menus

def type (package name : String) (base : Option TypeRef := none) : TypeDeclaration where
  ref := { package, name }
  base

def dish (name base : String) : TypeDeclaration :=
  type "app" name (some { package := "app", name := base })

def circle : DeclarationSet where
  types := [dish "Special" "Soup", dish "Soup" "Stock", dish "Stock" "Soup"]
  keys_nodup := by decide

def courses : DeclarationSet where
  types := [dish "Dessert" "Main", dish "Main" "Starter", type "app" "Starter"]
  keys_nodup := by decide

lemma circular_circle : circle.Circular := by
  have hsoup : circle.Extends (dish "Soup" "Stock") (dish "Stock" "Soup") :=
    ⟨by decide, by decide, rfl, _, rfl, rfl, by decide⟩
  have hstock : circle.Extends (dish "Stock" "Soup") (dish "Soup" "Stock") :=
    ⟨by decide, by decide, rfl, _, rfl, rfl, by decide⟩
  exact ⟨[dish "Soup" "Stock", dish "Stock" "Soup", dish "Soup" "Stock"],
    .cons_cons hsoup (.cons_cons hstock (.singleton _)), by decide⟩

theorem soup_reported :
    circle.Circular ∧
      (∃ names, Conventions.ofDeclarations circle = .error names ∧ names = ["app.Soup", "app.Stock", "app.Soup"] ∧
        circle.IsCircle names) ∧
      ∃ c, Conventions.ofDeclarations courses = .ok c ∧
        c.lineage (dish "Dessert" "Main") = [dish "Dessert" "Main", dish "Main" "Starter", type "app" "Starter"] ∧
        (c.lineage (dish "Dessert" "Main")).IsChain courses.Extends := by
  obtain ⟨hfound, hreported, -⟩ := Conventions.circles_reported circle
  obtain ⟨names, hnames⟩ := hfound circular_circle
  have hcircle : Conventions.ofDeclarations circle = .error ["app.Soup", "app.Stock", "app.Soup"] := by cbv
  obtain ⟨-, -, haccepted⟩ := Conventions.circles_reported courses
  obtain ⟨c, hc, hlineage⟩ : ∃ c, Conventions.ofDeclarations courses = .ok c ∧ c.lineage (dish "Dessert" "Main") =
      [dish "Dessert" "Main", dish "Main" "Starter", type "app" "Starter"] := by
    refine ⟨_, by cbv, ?_⟩
    decide +kernel
  refine ⟨circular_circle, ⟨names, hnames, ?_, (hreported names hnames).1⟩, c, hc, hlineage, ?_⟩
  · exact Except.error.inj (hnames.symm.trans hcircle)
  · exact (haccepted c hc _ (by decide)).1

end Menus

namespace Conventions

variable {s : DeclarationSet}

/-- Declarations are accepted exactly if there is no circle and the types of each chain are told apart by their full
names. -/
theorem accepted_iff_told_apart :
    (∃ c, ofDeclarations s = .ok c) ↔ ¬s.Circular ∧ ∀ path : List TypeDeclaration, path.IsChain s.Extends →
      ∀ d ∈ path, ∀ e ∈ path, d.fullName = e.fullName → d.key = e.key := by
  rw [isOk_iff_nodup_fullNames]
  constructor
  · intro h
    refine ⟨fun ⟨path, hpath, hrepeated⟩ => hrepeated (nodup_keys_of_fullNames (h path hpath)), ?_⟩
    intro path hpath d hd e he hname
    rw [List.inj_on_of_nodup_map (h path hpath) hd he hname]
  · rintro ⟨hcircular, hnames⟩ path hpath
    have hkeys : (path.map TypeDeclaration.key).Nodup := by
      by_contra hrepeated
      exact hcircular ⟨path, hpath, hrepeated⟩
    exact nodup_fullNames_of_keys hkeys (hnames path hpath)

end Conventions

namespace Menus

def items : DeclarationSet where
  types := [type "app.Menu" "Item" (some { package := "app", name := "Menu.Item" }), type "app" "Menu.Item"]
  keys_nodup := by decide

lemma not_circular_items : ¬items.Circular := by
  have hlast : ∀ b, ¬items.Extends (type "app" "Menu.Item") b := fun b h => by
    obtain ⟨r, hr, -⟩ := h.written
    cases hr
  rintro ⟨path, hpath, hrepeated⟩
  match path, hpath with
  | [], _ => exact hrepeated (by decide)
  | [d], _ => exact hrepeated (List.nodup_singleton _)
  | d :: b :: path, hpath =>
    obtain ⟨hstep, hrest⟩ := List.isChain_cons_cons.1 hpath
    obtain ⟨r, hr, hkey, -⟩ := hstep.written
    have hd := hstep.derived
    simp only [items, List.mem_cons, List.not_mem_nil, or_false] at hd
    obtain rfl | rfl := hd
    · cases hr
      have hb : b = type "app" "Menu.Item" := DeclarationSet.eq_of_key_eq (s := items) hstep.base (by decide) hkey.symm
      subst hb
      cases path with
      | nil => exact hrepeated (by decide)
      | cons e path => exact hlast e (List.isChain_cons_cons.1 hrest).1
    · exact hlast b hstep

theorem item_refused :
    ¬items.Circular ∧ Conventions.ofDeclarations items = .error ["app.Menu.Item", "app.Menu.Item"] :=
  ⟨not_circular_items, by cbv⟩

end Menus

end Wiring
