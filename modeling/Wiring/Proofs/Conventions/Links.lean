import Wiring.Proofs.Conventions.Lineage

/-!
Types and the interfaces that they are linked to. An interface is named after its type, so it is linked to no other
one, and references that name a package are left alone.
-/

namespace Wiring

lemma interfaceName_injective : Function.Injective interfaceName := by
  intro m n h
  have hlist := congrArg String.toList h
  simp only [interfaceName, String.toList_append, List.append_cancel_left_eq] at hlist
  exact String.toList_inj.1 hlist

variable {s : DeclarationSet} {c : Conventions} {d e : TypeDeclaration} {l : InterfaceLink} {k : TypeKey} {r : TypeRef}

namespace DeclarationSet

lemma link?_cases (h : s.link? d = some l) :
    l.source = d.ref ∧ l.interface.key = (d.package, interfaceName d.name) ∧ l.interface.isTypeParameter = false ∧
      l.handAuthored = s.declaresInterface l.interface.key := by
  unfold link? at h
  split at h
  · cases h
  · obtain ⟨w, -, rfl⟩ := Option.map_eq_some_iff.1 h
    exact ⟨rfl, rfl, rfl, rfl⟩

lemma get?_mem (h : s.get? k = some d) : d ∈ s.types ∧ d.key = k :=
  ⟨List.mem_of_find?_eq_some h, by simpa using List.find?_some h⟩

lemma get?_key (hd : d ∈ s.types) : s.get? d.key = some d :=
  find?_eq_some_of_mem s.keys_nodup hd

end DeclarationSet

namespace Conventions

lemma mem_links_iff (hc : ofDeclarations s = .ok c) : l ∈ c.links ↔ ∃ d ∈ s.types, s.link? d = some l := by
  rw [(ofDeclarations_cases hc).2.1, List.mem_filterMap]

lemma link?_eq (hc : ofDeclarations s = .ok c) (hd : d ∈ s.types) : c.link? d = s.link? d := by
  cases hl : s.link? d with
  | none =>
    refine List.find?_eq_none.2 fun l hmem => ?_
    obtain ⟨e, he, hel⟩ := (mem_links_iff hc).1 hmem
    rw [(DeclarationSet.link?_cases hel).1]
    intro hkey
    obtain rfl := DeclarationSet.eq_of_key_eq he hd (of_decide_eq_true hkey)
    rw [hl] at hel
    cases hel
  | some l =>
    cases hfound : c.link? d with
    | none =>
      have hmem : l ∈ c.links := (mem_links_iff hc).2 ⟨d, hd, hl⟩
      have hnot := List.find?_eq_none.1 hfound l hmem
      rw [(DeclarationSet.link?_cases hl).1] at hnot
      exact absurd (decide_eq_true rfl) hnot
    | some l' =>
      obtain ⟨e, he, hel⟩ := (mem_links_iff hc).1 (List.mem_of_find?_eq_some hfound)
      have hkey := List.find?_some hfound
      rw [(DeclarationSet.link?_cases hel).1] at hkey
      obtain rfl := DeclarationSet.eq_of_key_eq he hd (of_decide_eq_true hkey)
      rw [← hl, ← hel]

lemma mem_of_linkTo? (hc : ofDeclarations s = .ok c) (h : c.linkTo? k = some l) :
    ∃ d ∈ s.types, c.link? d = some l ∧ l.interface.key = k := by
  obtain ⟨d, hd, hl⟩ := (mem_links_iff hc).1 (List.mem_of_find?_eq_some h)
  exact ⟨d, hd, (link?_eq hc hd).trans hl, by simpa using List.find?_some h⟩

lemma linkTo?_interface (hc : ofDeclarations s = .ok c) (hd : d ∈ s.types) (h : c.link? d = some l) :
    c.linkTo? l.interface.key = some l := by
  have hl := (link?_eq hc hd).symm.trans h
  cases hfound : c.linkTo? l.interface.key with
  | none =>
    have hnot := List.find?_eq_none.1 hfound l ((mem_links_iff hc).2 ⟨d, hd, hl⟩)
    exact absurd (decide_eq_true rfl) hnot
  | some l' =>
    obtain ⟨e, he, hel, hkey⟩ := mem_of_linkTo? hc hfound
    rw [link?_eq hc he] at hel
    rw [(DeclarationSet.link?_cases hl).2.1, (DeclarationSet.link?_cases hel).2.1, Prod.mk.injEq] at hkey
    obtain rfl := DeclarationSet.eq_of_key_eq he hd (Prod.ext hkey.1 (interfaceName_injective hkey.2))
    rw [← hl, ← hel]

lemma not_isInterface_of_synthesized (hc : ofDeclarations s = .ok c) (hd : d ∈ s.types) (h : c.link? d = some l)
    (hs : l.synthesized) (he : s.get? l.interface.key = some e) : e.isInterface = false := by
  rw [link?_eq hc hd] at h
  rw [InterfaceLink.synthesized, (DeclarationSet.link?_cases h).2.2.2, DeclarationSet.declaresInterface, he] at hs
  simpa using hs

/-- Every declared type says what package it belongs to. -/
def NamesPackages (c : Conventions) : Prop :=
  ∀ d ∈ c.declarations.types, d.package ≠ ""

instance (c : Conventions) : Decidable c.NamesPackages :=
  inferInstanceAs (Decidable (∀ d ∈ c.declarations.types, d.package ≠ ""))

lemma bind_of_package_ne (h : r.package ≠ "") (package : String) : c.bind r package = r := by
  rw [bind, if_neg (by simp [TypeRef.isPending, h])]

end Conventions

end Wiring
