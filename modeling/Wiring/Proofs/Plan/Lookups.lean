import Wiring.Proofs.Plan.Plain
import Wiring.Proofs.Unit.Accounts

/-!
What one part of a pass looks up, an earlier part has found or made. So a pass over declarations without a circle of
bases fails only where a walk over the parents of interfaces runs out of depth, and more depth does not change what
it gives.
-/

namespace Wiring

/-! Walks with more depth. -/

section Depth

variable {α β : Type} {next : α → List α} {seen found : List α}

lemma foldlM_imp {f g : β → α → Option β} (hfg : ∀ b a b', f b a = some b' → g b a = some b') {as : List α} {b b' : β}
    (h : as.foldlM f b = some b') : as.foldlM g b = some b' := by
  induction as generalizing b with
  | nil => exact h
  | cons a as ih =>
    rw [List.foldlM_cons] at h ⊢
    obtain ⟨middle, hfirst, hrest⟩ := Option.bind_eq_some_iff.1 h
    exact Option.bind_eq_some_iff.2 ⟨middle, hfg b a middle hfirst, ih hrest⟩

lemma visit_mono [DecidableEq α] {n m : Nat} (hnm : n ≤ m) {a : α} (h : visit next n seen a = some found) :
    visit next m seen a = some found := by
  induction n generalizing m seen a found with
  | zero =>
    rw [visit] at h
    split at h
    · rename_i ha
      cases m with
      | zero => rw [visit, if_pos ha, h]
      | succ m => rw [visit, if_pos ha, h]
    · cases h
  | succ n ih =>
    obtain ⟨m, rfl⟩ := Nat.exists_eq_add_of_lt hnm
    rw [visit] at h ⊢
    split
    · rename_i ha
      rwa [if_pos ha] at h
    · rename_i ha
      rw [if_neg ha] at h
      exact foldlM_imp (fun _ _ _ => ih (Nat.le_add_right n m)) h

end Depth

namespace Conventions

variable {c : Conventions} {s : Settings} {plans : List InterfacePlan} {initializers : List InitializerPlan}
  {set : DeclarationSet} {d : TypeDeclaration} {n m : Nat}

lemma interfaceClosure_mono (hnm : n ≤ m) {closure : List TypeRef} (h : c.interfaceClosure plans n d = some closure) :
    c.interfaceClosure plans m d = some closure :=
  foldlM_imp (fun _ _ _ => visit_mono hnm) h

/-- Whether the walks over the interfaces of all registered types end within some depth. -/
def WalksWithin (c : Conventions) (s : Settings) (plans : List InterfacePlan) (depth : Nat) : Prop :=
  ∀ d ∈ c.declarations.types, (s.lifetime? d).isSome → (c.interfaceClosure plans depth d).isSome

def WalksEnd (c : Conventions) (s : Settings) (plans : List InterfacePlan) : Prop :=
  ∀ d ∈ c.declarations.types, (s.lifetime? d).isSome → ∃ depth, (c.interfaceClosure plans depth d).isSome

lemma WalksWithin.mono (h : c.WalksWithin s plans n) (hnm : n ≤ m) : c.WalksWithin s plans m := by
  intro d hd hl
  obtain ⟨closure, hclosure⟩ := Option.isSome_iff_exists.1 (h d hd hl)
  rw [interfaceClosure_mono hnm hclosure, Option.isSome_some]

lemma WalksWithin.closure_eq (h : c.WalksWithin s plans n) (h' : c.WalksWithin s plans m)
    (hd : d ∈ c.declarations.types) (hl : (s.lifetime? d).isSome) :
    c.interfaceClosure plans n d = c.interfaceClosure plans m d := by
  obtain ⟨closure, hclosure⟩ := Option.isSome_iff_exists.1 (h d hd hl)
  obtain ⟨found, hfound⟩ := Option.isSome_iff_exists.1 (h' d hd hl)
  have hmax := interfaceClosure_mono (Nat.le_max_left n m) hclosure
  rw [interfaceClosure_mono (Nat.le_max_right n m) hfound] at hmax
  rw [hclosure, hfound, Option.some.inj hmax]

lemma WalksEnd.exists_walksWithin (h : c.WalksEnd s plans) : ∃ depth, c.WalksWithin s plans depth := by
  unfold WalksWithin
  unfold WalksEnd at h
  generalize c.declarations.types = ds at h ⊢
  induction ds with
  | nil => exact ⟨0, fun d hd => by cases hd⟩
  | cons d ds ih =>
    obtain ⟨hd, hds⟩ := List.forall_mem_cons.1 h
    obtain ⟨n, hn⟩ := ih hds
    by_cases hl : (s.lifetime? d).isSome
    · obtain ⟨k, hk⟩ := hd hl
      obtain ⟨closure, hclosure⟩ := Option.isSome_iff_exists.1 hk
      refine ⟨max n k, List.forall_mem_cons.2 ⟨fun _ => ?_, fun e he hle => ?_⟩⟩
      · rw [interfaceClosure_mono (Nat.le_max_right n k) hclosure, Option.isSome_some]
      · obtain ⟨found, hfound⟩ := Option.isSome_iff_exists.1 (hn e he hle)
        rw [interfaceClosure_mono (Nat.le_max_left n k) hfound, Option.isSome_some]
    · exact ⟨n, List.forall_mem_cons.2 ⟨fun hd => absurd hd hl, hn⟩⟩

/-! The graph of registrations. -/

lemma serviceEntries_congr (h : c.interfaceClosure plans n d = c.interfaceClosure plans m d) (lifetime : Lifetime) :
    c.serviceEntries plans n d lifetime = c.serviceEntries plans m d lifetime := by
  simp only [serviceEntries, registeredServices, h]

lemma exists_serviceEntries (h : (c.interfaceClosure plans n d).isSome) (lifetime : Lifetime) :
    ∃ entries, c.serviceEntries plans n d lifetime = some entries := by
  obtain ⟨closure, hclosure⟩ := Option.isSome_iff_exists.1 h
  cases hl : (c.link? d).filter (·.viaBase) with
  | none =>
    simp only [serviceEntries, registeredServices, hclosure, hl]
    exact ⟨_, rfl⟩
  | some l =>
    simp only [serviceEntries, registeredServices, hclosure, hl]
    exact ⟨_, rfl⟩

lemma graphOf_congr {ds : List TypeDeclaration} (h : ∀ d ∈ ds, (s.lifetime? d).isSome →
    c.interfaceClosure plans n d = c.interfaceClosure plans m d) :
    c.graphOf s plans initializers n ds = c.graphOf s plans initializers m ds := by
  induction ds with
  | nil => rfl
  | cons d ds ih =>
    obtain ⟨hd, hds⟩ := List.forall_mem_cons.1 h
    cases hl : s.lifetime? d with
    | none => simp only [graphOf, hl, ih hds]
    | some lifetime =>
      rw [hl] at hd
      simp only [graphOf, hl, serviceEntries_congr (hd rfl), ih hds]

lemma exists_graphOf {ds : List TypeDeclaration}
    (hwalks : ∀ d ∈ ds, (s.lifetime? d).isSome → (c.interfaceClosure plans n d).isSome)
    (hplans : ∀ d ∈ ds, (s.lifetime? d).isSome → (initializers.find? (·.owner.key = d.key)).isSome) :
    ∃ g, c.graphOf s plans initializers n ds = .ok g := by
  induction ds with
  | nil => exact ⟨{}, rfl⟩
  | cons d ds ih =>
    obtain ⟨hwalk, hwalks⟩ := List.forall_mem_cons.1 hwalks
    obtain ⟨hplan, hplans⟩ := List.forall_mem_cons.1 hplans
    obtain ⟨g, hg⟩ := ih hwalks hplans
    cases hl : s.lifetime? d with
    | none => exact ⟨g, by rw [graphOf, hl, hg]⟩
    | some lifetime =>
      rw [hl] at hwalk hplan
      obtain ⟨plan, hp⟩ := Option.isSome_iff_exists.1 (hplan rfl)
      obtain ⟨entries, hentries⟩ := exists_serviceEntries (hwalk rfl) lifetime
      simp only [graphOf, hl, hentries, hp, hg]
      exact ⟨_, rfl⟩

lemma graphOf_error {ds : List TypeDeclaration} {fault : GenerationFault}
    (hplans : ∀ d ∈ ds, (s.lifetime? d).isSome → (initializers.find? (·.owner.key = d.key)).isSome)
    (h : c.graphOf s plans initializers n ds = .error fault) : fault = .tooDeep := by
  induction ds with
  | nil => cases h
  | cons d ds ih =>
    obtain ⟨hplan, hplans⟩ := List.forall_mem_cons.1 hplans
    cases hl : s.lifetime? d with
    | none =>
      rw [graphOf, hl] at h
      exact ih hplans h
    | some lifetime =>
      rw [hl] at hplan
      obtain ⟨plan, hp⟩ := Option.isSome_iff_exists.1 (hplan rfl)
      cases he : c.serviceEntries plans n d lifetime with
      | none =>
        simp only [graphOf, hl, he] at h
        cases h
        rfl
      | some entries =>
        cases hg : c.graphOf s plans initializers n ds with
        | error other =>
          simp only [graphOf, hl, he, hp, hg] at h
          cases h
          exact ih hplans hg
        | ok rest =>
          simp only [graphOf, hl, he, hp, hg] at h
          cases h

/-! Lookups. -/

/-- All that the parts of a pass look up without asking whether it is there. -/
structure LookupsSucceed (c : Conventions) (s : Settings) : Prop where
  base : ∀ d ∈ c.declarations.types, ∀ pre e f post, c.lineage d = pre ++ e :: f :: post →
    ∃ r, e.base = some r ∧ c.declarations.find? r = some f ∧ f.isInterface = false
  source : ∀ k l, c.linkTo? k = some l → ∃ d, c.declarations.find? l.source = some d ∧ c.link? d = some l
  link : ∀ d ∈ c.declarations.types, c.synthesizesInterface d → ∃ l, c.IsDrafted d l
  nearest : ∀ d ∈ c.declarations.types, ∀ a, (c.ancestors d).head? = some a →
    c.synthesizesInterface a.declaration → ∃ l, c.draftBase? d = some (a, l) ∧ c.IsDrafted a.declaration l
  annotation : ∀ d ∈ c.declarations.types, ∀ a ∈ s.lifetimeAnnotationsOf d, (s.lifetimeOf? a.name).isSome
  lifetime : ∀ d ∈ c.declarations.types, s.lifetimeAnnotationsOf d ≠ [] →
    (s.lifetime? d).isSome ∧ (s.lifetimeAnnotationsOf d).getLast?.isSome
  called : ∀ d ∈ c.declarations.types, (c.ancestors d).any (fun a => c.isInitialized s a.declaration) →
    ∃ a, (c.ancestors d).head? = some a ∧ (c.initializerPlan s d).base = some a.ref
  initializer : ∀ d ∈ c.declarations.types, (s.lifetime? d).isSome →
    (c.initializerPlans s).find? (·.owner.key = d.key) = some (c.initializerPlan s d)

lemma exists_lifetimeOf? {name : String} (h : name ∈ s.lifetimeAnnotations.map Prod.fst) :
    (s.lifetimeOf? name).isSome := by
  rw [Settings.lifetimeOf?, Assoc.find?_ofPairs, ← Option.ne_none_iff_isSome, Ne, Assoc.find?_eq_none_iff,
    List.map_reverse, List.mem_reverse, not_not]
  exact h

lemma isSome_winner {ls : List Lifetime} (h : ls ≠ []) : (Lifetime.winner ls).isSome := by
  cases ls with
  | nil => exact absurd rfl h
  | cons l ls =>
    rw [Lifetime.winner]
    split <;> rfl

lemma lifetimeOf?_of_mem {a : Annotation} (ha : a ∈ s.lifetimeAnnotationsOf d) : (s.lifetimeOf? a.name).isSome := by
  rw [Settings.lifetimeAnnotationsOf] at ha
  split at ha
  · cases ha
  · exact exists_lifetimeOf? (of_decide_eq_true (List.mem_filter.1 ha).2)

lemma isSome_lifetime? (h : s.lifetimeAnnotationsOf d ≠ []) : (s.lifetime? d).isSome := by
  obtain ⟨a, as, has⟩ := List.exists_cons_of_ne_nil h
  obtain ⟨lifetime, hl⟩ := Option.isSome_iff_exists.1
    (lifetimeOf?_of_mem (has ▸ List.mem_cons_self : a ∈ s.lifetimeAnnotationsOf d))
  refine isSome_winner (List.ne_nil_of_mem (List.mem_filterMap.2 ⟨a, ?_, hl⟩))
  rw [has]
  exact List.mem_cons_self

lemma isInitialized_of_lifetime (c : Conventions) (h : (s.lifetime? d).isSome) : c.isInitialized s d := by
  cases hi : d.isInterface with
  | false => simp [isInitialized, Settings.isRoot, hi, h]
  | true => simp [Settings.lifetime?, Settings.lifetimeAnnotationsOf, hi, Lifetime.winner] at h

lemma exists_isDrafted (hd : d ∈ c.declarations.types) (h : c.synthesizesInterface d) : ∃ l, c.IsDrafted d l := by
  obtain ⟨l, hl, hs⟩ := (Option.any_eq_true _ _).1 h
  exact ⟨l, hd, hl, hs⟩

lemma lookupsSucceed (hc : ofDeclarations set = .ok c) (s : Settings) : c.LookupsSucceed s := by
  obtain rfl := (ofDeclarations_cases hc).1
  constructor
  case base =>
    intro d hd pre e f post hsplit
    have he : e ∈ c.declarations.types := mem_types_of_mem_lineage hc hd (hsplit ▸ by simp)
    have hpost := lineage_suffix hc hd hsplit
    rcases ancestors_cases hc he with ⟨hb, -⟩ | ⟨r, b, rest, hb, -⟩
    · rw [superclasses_of_root hc he hb] at hpost
      cases hpost
    · rw [superclasses_of_derived hc he hb, lineage] at hpost
      cases hpost
      exact ⟨r, DeclarationSet.classBase?_eq_some hb⟩
  case source =>
    intro k l hl
    obtain ⟨d, hd, hlink, -⟩ := mem_of_linkTo? hc hl
    refine ⟨d, ?_, hlink⟩
    rw [(DeclarationSet.link?_cases ((link?_eq hc hd).symm.trans hlink)).1, DeclarationSet.find?,
      DeclarationSet.get?_key hd]
  case link =>
    intro d hd h
    exact exists_isDrafted hd h
  case nearest =>
    intro d hd a hhead h
    have ha : a.declaration ∈ c.declarations.types := mem_types_of_mem_ancestors hc hd (List.mem_of_head? hhead)
    obtain ⟨l, hl⟩ := exists_isDrafted ha h
    refine ⟨l, ?_, hl⟩
    rw [draftBase?, hhead]
    change (c.link? a.declaration >>= _) = _
    rw [hl.linked]
    change (if l.synthesized then _ else _) = _
    rw [if_pos hl.synthesized]
    rfl
  case annotation => exact fun d hd a ha => lifetimeOf?_of_mem ha
  case lifetime =>
    intro d hd h
    exact ⟨isSome_lifetime? h, by rw [List.getLast?_isSome]; exact h⟩
  case called =>
    intro d hd h
    obtain ⟨a, ha, -⟩ := List.any_eq_true.1 h
    obtain ⟨first, rest, hfirst⟩ := List.exists_cons_of_ne_nil (List.ne_nil_of_mem ha)
    refine ⟨first, by rw [hfirst, List.head?_cons], ?_⟩
    have hany : (c.superclasses d).any (c.isInitialized s) := by rwa [superclasses, List.any_map]
    rw [base_eq, if_pos hany, hfirst]
    rfl
  case initializer =>
    intro d hd h
    rw [find?_initializerPlans hc hd, if_pos (isInitialized_of_lifetime c h)]

end Conventions

variable {s : Settings} {set : DeclarationSet} {c : Conventions} {plans : List InterfacePlan} {depth : Nat}

lemma exists_generate_eq_ok (s : Settings) (set : DeclarationSet) (design : Design) :
    ∃ r, ∀ depth, Design.ofDeclarations s depth set = .ok design → (generate s depth set).1 = .ok r := by
  obtain ⟨g, hg⟩ : ∃ g, ∀ depth, Design.ofDeclarations s depth set = .ok design →
      Generation.ofDeclarations s depth set = .ok g :=
    ⟨_, fun depth h => Except.bind_eq_ok.2 ⟨design, h, rfl⟩⟩
  exact ⟨g.result, fun depth h => by rw [generate, hg depth h]⟩

lemma generate_eq_error {fault : GenerationFault} (h : Design.ofDeclarations s depth set = .error fault) :
    (generate s depth set).1 = .error fault := by
  have hg : Generation.ofDeclarations s depth set = .error fault := by
    rw [Generation.ofDeclarations, h]
    rfl
  rw [generate, hg]

lemma Design.error_cases (hc : Conventions.ofDeclarations set = .ok c) (hplans : c.interfacePlans = .ok plans)
    {fault : GenerationFault} (h : (generate s depth set).1 = .error fault) :
    c.registrationGraph s plans (c.initializerPlans s) depth = .error fault := by
  cases hgraph : c.registrationGraph s plans (c.initializerPlans s) depth with
  | error other =>
    have hdesign : Design.ofDeclarations s depth set = .error other := by
      rw [Design.ofDeclarations, hc]
      change (c.interfacePlans >>= _) = _
      rw [hplans]
      change (c.registrationGraph s plans (c.initializerPlans s) depth >>= _) = _
      rw [hgraph]
      rfl
    cases (generate_eq_error hdesign).symm.trans h
    rfl
  | ok graph =>
    obtain ⟨r, hr⟩ := exists_generate_eq_ok s set ⟨c, plans, c.initializerPlans s, graph⟩
    cases (hr depth (Design.ofDeclarations_eq_ok.2 ⟨hc, hplans, rfl, hgraph⟩)).symm.trans h

/-- A pass gives a result, or fails with a circle of bases, wherever the walks over interfaces end: the same result
at all depths that are enough. At any other depth it fails for want of depth and for nothing else. -/
theorem generate_answers (s : Settings) (set : DeclarationSet)
    (hends : ∀ c plans, Conventions.ofDeclarations set = .ok c → c.interfacePlans = .ok plans → c.WalksEnd s plans) :
    (∃ names, Conventions.ofDeclarations set = .error names ∧
        ∀ depth, (generate s depth set).1 = .error (.circularInheritance names)) ∨
      ∃ c plans r enough, Conventions.ofDeclarations set = .ok c ∧ c.interfacePlans = .ok plans ∧
        c.LookupsSucceed s ∧ (∀ depth, enough ≤ depth → c.WalksWithin s plans depth) ∧
        ∀ depth, (c.WalksWithin s plans depth → (generate s depth set).1 = .ok r) ∧
          ∀ fault, (generate s depth set).1 = .error fault → fault = .tooDeep := by
  cases hc : Conventions.ofDeclarations set with
  | error names =>
    refine Or.inl ⟨names, rfl, fun depth => generate_eq_error ?_⟩
    rw [Design.ofDeclarations, hc]
    rfl
  | ok c =>
    obtain rfl := (Conventions.ofDeclarations_cases hc).1
    obtain ⟨plans, hplans, -⟩ := Conventions.exists_interfacePlans hc
    have hlookups := Conventions.lookupsSucceed hc s
    have hfound : ∀ d ∈ c.declarations.types, (s.lifetime? d).isSome →
        ((c.initializerPlans s).find? (·.owner.key = d.key)).isSome := fun d hd hl => by
      rw [hlookups.initializer d hd hl, Option.isSome_some]
    obtain ⟨enough, hwithin⟩ := (hends c plans hc hplans).exists_walksWithin
    obtain ⟨graph, hgraph⟩ := Conventions.exists_graphOf hwithin hfound
    obtain ⟨r, hr⟩ := exists_generate_eq_ok s c.declarations ⟨c, plans, c.initializerPlans s, graph⟩
    refine Or.inr ⟨c, plans, r, enough, rfl, hplans, hlookups, fun depth h => hwithin.mono h, fun depth =>
      ⟨fun h => hr depth (Design.ofDeclarations_eq_ok.2 ⟨hc, hplans, rfl, ?_⟩), fun fault hfault => ?_⟩⟩
    · rw [← hgraph]
      exact Conventions.graphOf_congr fun d hd hl => h.closure_eq hwithin hd hl
    · exact Conventions.graphOf_error hfound (Design.error_cases hc hplans hfault)

namespace Stores

lemma walksEnd (c : Conventions) (plans : List InterfacePlan) (hc : Conventions.ofDeclarations declarations = .ok c)
    (hplans : c.interfacePlans = .ok plans) : c.WalksEnd settings plans := by
  obtain ⟨hconventions, hinterfaces, -⟩ := Design.ofDeclarations_eq_ok.1 ofDeclarations_eq
  cases hconventions.symm.trans hc
  cases hinterfaces.symm.trans hplans
  have hwithin : design.conventions.WalksWithin settings design.interfaces 4 := by
    unfold Conventions.WalksWithin
    decide
  exact fun d hd hl => ⟨4, hwithin d hd hl⟩

theorem stores_answered :
    (∀ c plans, Conventions.ofDeclarations declarations = .ok c → c.interfacePlans = .ok plans →
        c.WalksEnd settings plans) ∧
      ∃ r enough, ∀ depth, enough ≤ depth → (generate settings depth declarations).1 = .ok r := by
  refine ⟨walksEnd, ?_⟩
  obtain ⟨names, hc, -⟩ | ⟨c, plans, r, enough, -, -, -, henough, hr⟩ :=
    generate_answers settings declarations walksEnd
  · cases (Design.ofDeclarations_eq_ok.1 ofDeclarations_eq).1.symm.trans hc
  · exact ⟨r, enough, fun depth h => (hr depth).1 (henough depth h)⟩

end Stores

end Wiring
