import Wiring.Proofs.Unit.Imports
import Wiring.Proofs.Unit.Initialization

/-!
What the bodies of initializers read beside their parameters: the base, and what the guard of the completion hook asks
for. A parameter of the same name hides it. Nothing keeps the two apart but the names of the members themselves.
-/

namespace Wiring

def Statement.reads : Statement → List String
  | .assign _ _ => []
  | .callBase base _ => [base]
  | .runHook _ => []
  | .runHookUnlessDerived owner _ => ["type", owner]

namespace ImportTable

variable {own : Option TypeRef} {t : ImportTable}

lemma Sound.nameOf_cases (h : Sound own t) (r : TypeRef) :
    (t.nameOf r).1 = r.name ∨ (t.nameOf r).1 = qualifiedAlias r := by
  obtain hr | ⟨hr, hplain⟩ | himports := imports_or t r
  · exact .inl (congrArg Prod.fst (nameOf_of_typeParameter hr))
  · exact .inl (congrArg Prod.fst (nameOf_of_plain hr hplain))
  · cases ha : Assoc.find? r.key t.aliases with
    | some a =>
      rw [himports.nameOf_of_alias ha]
      exact h.form r.key a ha
    | none =>
      rw [himports.nameOf_of_new ha]
      exact (h.freeAlias_cases himports ha).imp_left And.left

lemma fst_nameOf_create (bounds : List TypeBound) (r : TypeRef) : ((create [] bounds).nameOf r).1 = r.name := by
  obtain hr | ⟨hr, hplain⟩ | himports := imports_or (create [] bounds) r
  · exact congrArg Prod.fst (nameOf_of_typeParameter hr)
  · exact congrArg Prod.fst (nameOf_of_plain hr hplain)
  · rw [himports.nameOf_of_new rfl]
    rfl

end ImportTable

namespace InitializerUnit

open ImportTable

def reads (u : InitializerUnit) : List String :=
  u.body.flatMap Statement.reads

/-- Whether all that a body reads is what stands under its name outside. -/
def Hygienic (u : InitializerUnit) : Prop :=
  ∀ n ∈ u.reads, n ∉ u.parameters.map Prod.fst

lemma sound_renderParameters {own : Option TypeRef} {t : ImportTable} (h : Sound own t)
    (ps : List InitializerParameter) : Sound own ((renderParameters ps).run t).2 := by
  induction ps generalizing t with
  | nil => exact h
  | cons p ps ih => exact ih (render_spec p.type h).1.sound

lemma exists_body (plan : InitializerPlan) : ∃ shown : String,
    (∀ b ∈ plan.base, shown = b.name ∨ shown = qualifiedAlias b) ∧ (ofPlan plan).body = assignments plan ++
      (plan.base.toList.map fun _ => .callBase shown plan.forwarded) ++ hookStatements plan plan.owner.name := by
  rw [← fst_nameOf_create plan.bounds plan.owner]
  cases hbase : plan.base with
  | none =>
    refine ⟨"", nofun, ?_⟩
    rw [Option.toList_none, List.map_nil, List.append_nil, ofPlan, build, hbase]
    change assignments plan ++ [] ++ _ = _
    rw [List.append_nil]
    rfl
  | some b =>
    let t := ((renderParameters plan.parameters).run ((create [] plan.bounds).nameOf plan.owner).2).2
    have hsound : Sound none t :=
      sound_renderParameters ((sound_create none plan.bounds).nameOf plan.owner) plan.parameters
    refine ⟨(t.nameOf b).1, fun b' hb' => ?_, ?_⟩
    · obtain rfl := Option.some.inj hb'
      exact hsound.nameOf_cases b
    · rw [ofPlan, build, hbase]
      rfl

lemma reads_hookStatements (plan : InitializerPlan) (owner : String) :
    (hookStatements plan owner).flatMap Statement.reads =
      if plan.guardCompletion ∧ (plan.completionHook.filter (· ≠ "")).isSome then ["type", owner] else [] := by
  rw [hookStatements]
  cases hhook : plan.completionHook.filter (· ≠ "") with
  | none => simp
  | some hook => cases hguard : plan.guardCompletion <;> simp [Statement.reads]

lemma reads_assignments (plan : InitializerPlan) : (assignments plan).flatMap Statement.reads = [] := by
  simp [assignments, Statement.reads, List.flatMap_map]

lemma exists_reads (plan : InitializerPlan) : ∃ shown : String,
    (∀ b ∈ plan.base, shown = b.name ∨ shown = qualifiedAlias b) ∧ (ofPlan plan).reads =
      (plan.base.toList.map fun _ => shown) ++
        if plan.guardCompletion ∧ (plan.completionHook.filter (· ≠ "")).isSome then ["type", plan.owner.name]
        else [] := by
  obtain ⟨shown, hshown, hbody⟩ := exists_body plan
  refine ⟨shown, hshown, ?_⟩
  rw [reads, hbody, List.flatMap_append, List.flatMap_append, reads_assignments, reads_hookStatements, List.nil_append]
  cases plan.base <;> rfl

end InitializerUnit

namespace Conventions

variable {set : DeclarationSet} {c : Conventions} {s : Settings} {P : InitializerPlan}

lemma guarded_iff (c : Conventions) (s : Settings) (d : TypeDeclaration) :
    ((c.initializerPlan s d).guardCompletion ∧ ((c.initializerPlan s d).completionHook.filter (· ≠ "")).isSome) ↔
      (c.initializerPlan s d).guardCompletion ∧ s.completionHook ≠ "" := by
  refine and_congr_right fun hguard => ?_
  simp only [initializerPlan, Bool.and_eq_true] at hguard ⊢
  rw [if_pos hguard.1]
  simp [Option.filter]

/-- A body reads the base where it calls that, and the owner and what a type is where the hook is guarded. Each of these
is what it stands for exactly if no dependency of the type or of an ancestor has its name for a parameter, and none is
given it as a numbered one. -/
theorem hygienic_iff (hc : ofDeclarations set = .ok c) (hP : P ∈ c.initializerPlans s) :
    ∃ d ∈ set.types, P = c.initializerPlan s d ∧ (∃ shown : String,
      (∀ b ∈ P.base, shown = b.name ∨ shown = ImportTable.qualifiedAlias b) ∧
      (InitializerUnit.ofPlan P).reads = (P.base.toList.map fun _ => shown) ++
        if P.guardCompletion ∧ s.completionHook ≠ "" then ["type", d.name] else []) ∧
      ((InitializerUnit.ofPlan P).Hygienic ↔ ∀ n ∈ (InitializerUnit.ofPlan P).reads,
        (∀ r ∈ c.requirements s d, parameterName r.2.name ≠ n) ∧
          ¬Numbered ((c.requirements s d).map (·.2.name)) n) := by
  obtain ⟨d, hd, -, rfl⟩ := mem_initializerPlans hc hP
  refine ⟨d, hd, rfl, ?_, ?_⟩
  · obtain ⟨shown, hshown, hreads⟩ := InitializerUnit.exists_reads (c.initializerPlan s d)
    refine ⟨shown, hshown, ?_⟩
    rw [hreads]
    simp only [guarded_iff]
    rfl
  · refine forall₂_congr fun n _ => ?_
    rw [InitializerUnit.map_fst_parameters, map_name_parameters, parameterNames, mem_freshNames_iff, not_or]
    simp

end Conventions

/-! Jobs of some type, of which one says when it is complete and is extended by another. -/

namespace Jobs

open Documents (named dependency)

def job : TypeDeclaration where
  ref := named "Job"
  members := [dependency "Job" "_type" "JobType",
    { name := "on_initialized", type := named "None", kind := .method }]
  annotations := [{ name := "Transient" }]

def daily : TypeDeclaration where
  ref := named "Daily"
  base := some (named "Job")
  annotations := [{ name := "Transient" }]

def declarations : DeclarationSet where
  types := [job, daily]
  keys_nodup := by decide

def conventions : Conventions where
  declarations := declarations
  links := []
  chains := [(job.key, []), (daily.key, [{ declaration := job, ref := job.ref }])]

lemma ofDeclarations_eq : Conventions.ofDeclarations declarations = .ok conventions := by
  cbv

theorem daily_hygienic :
    conventions.initializerPlan {} daily ∈ conventions.initializerPlans {} ∧
      (InitializerUnit.ofPlan (conventions.initializerPlan {} daily)).reads = ["Job"] ∧
      (InitializerUnit.ofPlan (conventions.initializerPlan {} daily)).Hygienic := by
  have hplan : conventions.initializerPlan {} daily ∈ conventions.initializerPlans {} :=
    List.mem_map.2 ⟨daily, by decide, rfl⟩
  have hreads : (InitializerUnit.ofPlan (conventions.initializerPlan {} daily)).reads = ["Job"] := by decide
  obtain ⟨d, hd, hd', -, hhygienic⟩ := Conventions.hygienic_iff ofDeclarations_eq hplan
  have hkey : daily.key = d.key := congrArg (fun P => P.owner.key) hd'
  obtain rfl := DeclarationSet.eq_of_key_eq (s := declarations) (by decide) hd hkey
  refine ⟨hplan, hreads, hhygienic.2 ?_⟩
  rw [hreads, List.forall_mem_singleton]
  exact ⟨by decide, fun hnumbered => absurd (underscore_mem_of_numbered hnumbered) (by decide)⟩

theorem job_type_hidden :
    Conventions.ofDeclarations declarations = .ok conventions ∧
      conventions.initializerPlan {} job ∈ conventions.initializerPlans {} ∧
      (InitializerUnit.ofPlan (conventions.initializerPlan {} job)).body =
        [.assign "_type" "type", .runHookUnlessDerived "Job" "on_initialized"] ∧
      (InitializerUnit.ofPlan (conventions.initializerPlan {} job)).parameters.map Prod.fst = ["type"] ∧
      ¬(InitializerUnit.ofPlan (conventions.initializerPlan {} job)).Hygienic := by
  have hbody : (InitializerUnit.ofPlan (conventions.initializerPlan {} job)).body =
      [.assign "_type" "type", .runHookUnlessDerived "Job" "on_initialized"] := by decide
  have hparameters : (InitializerUnit.ofPlan (conventions.initializerPlan {} job)).parameters.map Prod.fst =
      ["type"] := by decide
  refine ⟨ofDeclarations_eq, List.mem_map.2 ⟨job, by decide, rfl⟩, hbody, hparameters, fun hhygienic => ?_⟩
  refine hhygienic "type" ?_ (hparameters ▸ List.mem_singleton_self _)
  rw [InitializerUnit.reads, hbody]
  decide

end Jobs

end Wiring
