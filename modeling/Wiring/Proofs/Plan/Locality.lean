import Wiring.Generation
import Wiring.Proofs.Plan.Forwarding

/-!
What an initializer depends on. Two sets of declarations in which a type has the same ancestors lead to the same chain
for it and for each of these, and so to the same initializer; beyond the chain it only counts whether some type with an
initializer derives from it.
-/

namespace Wiring

namespace DeclarationSet

lemma chainFrom_congr {s s' : DeclarationSet} {v v' : List String} {d : TypeDeclaration} {m : Bindings}
    {as as' : List Ancestor} (h : s.chainFrom v d m = .ok as) (h' : s'.chainFrom v' d m = .ok as')
    (hsame : as.map (·.declaration) = as'.map (·.declaration)) : as = as' := by
  induction as generalizing v v' d m as' with
  | nil =>
    rw [List.map_nil, List.nil_eq, List.map_eq_nil_iff] at hsame
    exact hsame.symm
  | cons a as ih =>
    obtain ⟨-, hnil⟩ | ⟨r, b, rest, hb, -, hrest, hcons⟩ := chainFrom_cases h
    · cases hnil
    obtain ⟨rfl, rfl⟩ := List.cons.inj hcons
    obtain ⟨-, rfl⟩ | ⟨r', b', rest', hb', -, hrest', rfl⟩ := chainFrom_cases h'
    · cases hsame
    rw [List.map_cons, List.map_cons] at hsame
    obtain ⟨rfl, htail⟩ := List.cons.inj hsame
    have href := (classBase?_eq_some hb).1.symm.trans (classBase?_eq_some hb').1
    cases href
    rw [ih hrest hrest' htail]

end DeclarationSet

namespace Conventions

variable {set set' : DeclarationSet} {c c' : Conventions} {s : Settings} {d e : TypeDeclaration}

def initializerUnit? (c : Conventions) (s : Settings) (d : TypeDeclaration) : Option SourceUnit :=
  ((c.initializerPlans s).find? (·.owner.key = d.key)).map fun P => (InitializerUnit.ofPlan P).toSource

lemma isExtended_iff (hc : ofDeclarations set = .ok c) (hd : d ∈ set.types) :
    c.isExtended s d ↔ ∃ e ∈ c.initializedTypes s, d ∈ c.superclasses e := by
  have hkey : ∀ e ∈ c.initializedTypes s, ∀ a ∈ c.ancestors e, a.declaration.key = d.key → a.declaration = d := by
    intro e he a ha h
    rw [initializedTypes, (ofDeclarations_cases hc).1] at he
    exact DeclarationSet.eq_of_key_eq (mem_types_of_mem_ancestors hc (List.mem_of_mem_filter he) ha) hd h
  rw [isExtended, List.any_eq_true]
  refine exists_congr fun e => and_congr_right fun he => ?_
  rw [List.any_eq_true, superclasses, List.mem_map]
  refine exists_congr fun a => and_congr_right fun ha => ?_
  rw [decide_eq_true_iff]
  exact ⟨hkey e he a ha, congrArg TypeDeclaration.key⟩

/-- Two sets of declarations, accepted, in which a type has the same ancestors. -/
structure SameChain (set set' : DeclarationSet) (c c' : Conventions) (d : TypeDeclaration) : Prop where
  accepted : ofDeclarations set = .ok c
  accepted' : ofDeclarations set' = .ok c'
  declared : d ∈ set.types
  declared' : d ∈ set'.types
  superclasses : c.superclasses d = c'.superclasses d

namespace SameChain

lemma ancestors (h : SameChain set set' c c' d) : c.ancestors d = c'.ancestors d :=
  DeclarationSet.chainFrom_congr (chain_eq_ok h.accepted h.declared) (chain_eq_ok h.accepted' h.declared')
    h.superclasses

lemma of_mem (h : SameChain set set' c c' d) (he : e ∈ c.superclasses d) : SameChain set set' c c' e := by
  have he' : e ∈ c'.superclasses d := h.superclasses ▸ he
  have hlineage : c.lineage d = c'.lineage d := congrArg (d :: ·) h.superclasses
  obtain ⟨pre, post, hsplit⟩ := List.append_of_mem (List.mem_cons_of_mem d he)
  have hpost := lineage_suffix h.accepted h.declared hsplit
  have hpost' := lineage_suffix h.accepted' h.declared' (hlineage.symm.trans hsplit)
  exact {
    accepted := h.accepted
    accepted' := h.accepted'
    declared := mem_types_of_mem_lineage h.accepted h.declared (List.mem_cons_of_mem d he)
    declared' := mem_types_of_mem_lineage h.accepted' h.declared' (List.mem_cons_of_mem d he')
    superclasses := hpost.symm.trans hpost' }

lemma inheritedDependencies (h : SameChain set set' c c' d) (s : Settings) :
    c.inheritedDependencies s d = c'.inheritedDependencies s d := by
  rw [Conventions.inheritedDependencies, Conventions.inheritedDependencies, h.ancestors]

lemma isInitialized (h : SameChain set set' c c' d) (s : Settings) : c.isInitialized s d = c'.isInitialized s d := by
  rw [Conventions.isInitialized, Conventions.isInitialized, h.inheritedDependencies]

lemma callsBase (h : SameChain set set' c c' d) (s : Settings) :
    (c'.ancestors d).any (fun a => c.isInitialized s a.declaration) =
      (c'.ancestors d).any fun a => c'.isInitialized s a.declaration := by
  rw [← h.ancestors, Bool.eq_iff_iff, List.any_eq_true, List.any_eq_true]
  refine exists_congr fun a => and_congr_right fun ha => ?_
  rw [(h.of_mem (List.mem_map_of_mem ha)).isInitialized s]

lemma initializerPlan (h : SameChain set set' c c' d) (hextended : c.isExtended s d = c'.isExtended s d) :
    c.initializerPlan s d = c'.initializerPlan s d := by
  simp only [Conventions.initializerPlan, h.inheritedDependencies, h.callsBase, h.ancestors, hextended]

end SameChain

/-- The initializer of a type only depends on its ancestors and on whether it is the ancestor of a type with an
initializer. -/
theorem initializers_agree (h : SameChain set set' c c' d)
    (hextended : (∃ e ∈ c.initializedTypes s, d ∈ c.superclasses e) ↔
      ∃ e ∈ c'.initializedTypes s, d ∈ c'.superclasses e) :
    (c.initializerPlans s).find? (·.owner.key = d.key) = (c'.initializerPlans s).find? (·.owner.key = d.key) ∧
      c.initializerUnit? s d = c'.initializerUnit? s d := by
  have hsame : c.isExtended s d = c'.isExtended s d := by
    rw [Bool.eq_iff_iff, isExtended_iff h.accepted h.declared, isExtended_iff h.accepted' h.declared', hextended]
  have hplan : (c.initializerPlans s).find? (·.owner.key = d.key) =
      (c'.initializerPlans s).find? (·.owner.key = d.key) := by
    rw [find?_initializerPlans h.accepted h.declared, find?_initializerPlans h.accepted' h.declared',
      h.isInitialized, h.initializerPlan hsame]
  refine ⟨hplan, ?_⟩
  rw [initializerUnit?, initializerUnit?, hplan]

end Conventions

/-! Letters that are extended by invoices in one set and by reminders in another. -/

namespace Reminders

open Documents (named dependency record document letter invoice)

def reminder : TypeDeclaration where
  ref := named "Reminder"
  base := some (named "Letter")
  annotations := [{ name := "Transient" }]

def stamp : TypeDeclaration where
  ref := named "Stamp"
  members := [dependency "Stamp" "_press" "Press"]

def declarations : DeclarationSet where
  types := [stamp, reminder, letter, record, document]
  keys_nodup := by decide

def conventions : Conventions :=
  let ancestors := [letter, document, record].map fun d => ({ declaration := d, ref := d.ref } : Ancestor)
  { declarations := declarations
    links := []
    chains := [(stamp.key, []), (reminder.key, ancestors), (letter.key, ancestors.drop 1), (record.key, []),
      (document.key, ancestors.drop 2)] }

lemma sameChain_letter :
    Conventions.SameChain Documents.declarations declarations Documents.conventions conventions letter where
  accepted := Documents.ofDeclarations_eq
  accepted' := by cbv
  declared := by decide
  declared' := by decide
  superclasses := by decide

theorem letter_agrees :
    let letterPlan (c : Conventions) := (c.initializerPlans {}).find? (·.owner.key = letter.key)
    (letterPlan Documents.conventions).isSome ∧ letterPlan Documents.conventions = letterPlan conventions ∧
      Documents.conventions.initializerUnit? {} letter = conventions.initializerUnit? {} letter := by
  have hextended : (∃ e ∈ Documents.conventions.initializedTypes {}, letter ∈ Documents.conventions.superclasses e) ↔
      ∃ e ∈ conventions.initializedTypes {}, letter ∈ conventions.superclasses e :=
    iff_of_true (by decide) (by decide)
  exact ⟨by decide, Conventions.initializers_agree sameChain_letter hextended⟩

end Reminders

end Wiring
