import Mathlib.Data.List.Infix
import Mathlib.Data.List.Perm.Subperm
import Mathlib.Logic.Relation
import Wiring.Proofs.Unit.Imports
import Wiring.Unit.Initializer
import Wiring.Unit.Interface

/-!
The type variables of a unit. Those that its signatures use come first, as they are met; then come those that bounds
bring in, each below a line that mentions it. So no line mentions a later one exactly if, among those that are used,
each comes after all that its own bound mentions.
-/

namespace Wiring

def noted (known names : List String) : List String :=
  names.foldl (fun known n => if n ∈ known then known else known ++ [n]) known

section Noted

variable {known names : List String} {n : String}

lemma noted_append (known names others : List String) :
    noted known (names ++ others) = noted (noted known names) others :=
  List.foldl_append

lemma prefix_noted (known names : List String) : known <+: noted known names := by
  induction names generalizing known with
  | nil => exact List.prefix_refl known
  | cons n names ih =>
    rw [noted, List.foldl_cons]
    split
    · exact ih known
    · exact (List.prefix_append known [n]).trans (ih _)

lemma mem_noted : n ∈ noted known names ↔ n ∈ known ∨ n ∈ names := by
  induction names generalizing known with
  | nil => simp [noted]
  | cons m names ih =>
    rw [noted, List.foldl_cons, List.mem_cons]
    split
    · rename_i hm
      rw [← noted, ih]
      grind
    · rw [← noted, ih, List.mem_append, List.mem_singleton, or_assoc]

lemma nodup_noted (h : known.Nodup) : (noted known names).Nodup := by
  induction names generalizing known with
  | nil => exact h
  | cons m names ih =>
    rw [noted, List.foldl_cons]
    split
    · exact ih h
    · rename_i hm
      exact ih (List.nodup_append.2 ⟨h, List.nodup_singleton m, by grind⟩)

end Noted

def Ordered (mentions : String → List String) (names : List String) : Prop :=
  ∀ earlier n later, names = earlier ++ n :: later → ∀ m ∈ mentions n, m = n ∨ m ∈ earlier

def parametersOf (rs : List TypeRef) : List String :=
  (rs.filter (·.isTypeParameter)).map (·.name)

lemma parametersOf_append (rs qs : List TypeRef) : parametersOf (rs ++ qs) = parametersOf rs ++ parametersOf qs := by
  rw [parametersOf, List.filter_append, List.map_append]
  rfl

namespace ImportTable

variable {t t' t'' : ImportTable} {rs qs : List TypeRef} {r : TypeRef}

structure Notes (t : ImportTable) (rs : List TypeRef) (t' : ImportTable) : Prop where
  typeVariables : t'.typeVariables = noted t.typeVariables (parametersOf rs)
  bounds : t'.bounds = t.bounds

lemma Notes.refl (t : ImportTable) : Notes t [] t :=
  ⟨rfl, rfl⟩

lemma Notes.trans (h : Notes t rs t') (h' : Notes t' qs t'') : Notes t (rs ++ qs) t'' where
  typeVariables := by rw [h'.typeVariables, h.typeVariables, parametersOf_append, noted_append]
  bounds := h'.bounds.trans h.bounds

lemma notes_nameOf (t : ImportTable) (r : TypeRef) : Notes t [r] (t.nameOf r).2 := by
  obtain hr | ⟨hr, hplain⟩ | himports := imports_or t r
  · rw [nameOf_of_typeParameter hr]
    by_cases hmem : r.name ∈ t.typeVariables
    · exact ⟨by simp [noted, parametersOf, hr, hmem], by simp [hmem]⟩
    · exact ⟨by simp [noted, parametersOf, hr, hmem], by simp [hmem]⟩
  · rw [nameOf_of_plain hr hplain]
    exact ⟨by simp [noted, parametersOf, hr], rfl⟩
  · have hnothing : noted t.typeVariables (parametersOf [r]) = t.typeVariables := by
      simp [noted, parametersOf, himports.type]
    cases ha : Assoc.find? r.key t.aliases with
    | some a => exact ⟨by rw [himports.nameOf_of_alias ha, hnothing], by rw [himports.nameOf_of_alias ha]⟩
    | none => exact ⟨by rw [himports.nameOf_of_new ha, hnothing], by rw [himports.nameOf_of_new ha]⟩

mutual

theorem notes_render : (r : TypeRef) → (t : ImportTable) → Notes t r.mentions ((render r).run t).2
  | ⟨p, n, as, v⟩, t => by
    rw [TypeRef.mentions]
    exact (notes_nameOf t ⟨p, n, as, v⟩).trans (notes_renderAll as _)

theorem notes_renderAll : (rs : List TypeRef) → (t : ImportTable) →
    Notes t (TypeRef.mentionsAll rs) ((renderAll rs).run t).2
  | [], t => .refl t
  | r :: rs, t => by
    rw [TypeRef.mentionsAll]
    exact (notes_render r t).trans (notes_renderAll rs _)

end

def Shows (r : TypeRef) (shown : String) : Prop :=
  r.isTypeParameter → shown = r.name

mutual

theorem shows_render : (r : TypeRef) → (t : ImportTable) →
    List.Forall₂ Shows r.mentions ((render r).run t).1.names
  | ⟨p, n, as, v⟩, t => by
    rw [TypeRef.mentions]
    refine .cons (fun hr => ?_) (shows_renderAll as _)
    exact congrArg Prod.fst (nameOf_of_typeParameter (t := t) hr)

theorem shows_renderAll : (rs : List TypeRef) → (t : ImportTable) →
    List.Forall₂ Shows (TypeRef.mentionsAll rs) (Term.namesAll ((renderAll rs).run t).1)
  | [], _ => .nil
  | r :: rs, t => by
    rw [TypeRef.mentionsAll]
    exact List.rel_append (shows_render r t) (shows_renderAll rs _)

end

def mentionedIn (bounds : List (String × TypeRef)) (name : String) : List String :=
  parametersOf ((Assoc.find? name bounds).toList.flatMap TypeRef.mentions)

def ShowsBound : Option TypeRef → Option Term → Prop :=
  Option.Rel fun r shown => List.Forall₂ Shows r.mentions shown.names

structure Lists (bounds : List (String × TypeRef)) (known : List String) (index : Nat) (vs : List TypeVariable)
    (names : List String) : Prop where
  first : known <+: names
  distinct : names.Nodup
  rest : vs.map (·.name) = names.drop index
  complete : ∀ v ∈ vs, mentionedIn bounds v.name ⊆ names
  brought : ∀ earlier n later, names = earlier ++ n :: later → n ∈ known ∨ ∃ m ∈ earlier, n ∈ mentionedIn bounds m
  shown : ∀ v ∈ vs, ShowsBound (Assoc.find? v.name bounds) v.bound

lemma prefix_of_notMem {known earlier later : List String} {n : String} (h : known <+: earlier ++ n :: later)
    (hn : n ∉ known) : known <+: earlier := by
  apply List.prefix_of_prefix_length_le h (List.prefix_append earlier (n :: later))
  by_contra hlength
  have hsplit : earlier ++ [n] <+: known := by
    refine List.prefix_of_prefix_length_le ?_ h (by simp; omega)
    exact ⟨later, by simp⟩
  exact hn (hsplit.subset (by simp))

lemma variablesFrom_of_some (steps : Nat) {index : Nat} {name : String} (h : t.typeVariables[index]? = some name) :
    ∃ bound t₁, Notes t ((Assoc.find? name t.bounds).toList.flatMap TypeRef.mentions) t₁ ∧
      ShowsBound (Assoc.find? name t.bounds) bound ∧ (variablesFrom (steps + 1) index).run t =
        ({ name, bound } :: ((variablesFrom steps (index + 1)).run t₁).1,
          ((variablesFrom steps (index + 1)).run t₁).2) := by
  rw [variablesFrom]
  cases hb : Assoc.find? name t.bounds with
  | none =>
    refine ⟨none, t, .refl t, .none, ?_⟩
    simp only [bind_pure_comp, pure_bind, bind_map_left, StateT.run_bind, StateT.run_get, h, hb, StateT.run_map]
    rfl
  | some b =>
    refine ⟨some ((render b).run t).1, ((render b).run t).2, ?_, .some (shows_render b t), ?_⟩
    · simpa using notes_render b t
    · simp only [bind_pure_comp, pure_bind, bind_map_left, StateT.run_bind, StateT.run_get, h, hb, StateT.run_map]
      rfl

lemma Lists.cons {bounds : List (String × TypeRef)} {known names : List String} {index : Nat} {name : String}
    {bound : Option Term} {vs : List TypeVariable} (hname : known[index]? = some name)
    (hshown : ShowsBound (Assoc.find? name bounds) bound)
    (h : Lists bounds (noted known (mentionedIn bounds name)) (index + 1) vs names) :
    Lists bounds known index ({ name, bound } :: vs) names where
  first := (prefix_noted _ _).trans h.first
  distinct := h.distinct
  rest := by
    obtain ⟨more, hmore⟩ := (prefix_noted _ _).trans h.first
    have hlt : index < known.length := (List.getElem?_eq_some_iff.1 hname).1
    have hget : names[index]? = some name := by
      rw [← hmore, List.getElem?_append_left hlt, hname]
    obtain ⟨hlong, hget⟩ := List.getElem?_eq_some_iff.1 hget
    rw [List.map_cons, h.rest, List.drop_eq_getElem_cons hlong, hget]
  complete := by
    refine List.forall_mem_cons.2 ⟨fun n hn => ?_, h.complete⟩
    exact h.first.subset (mem_noted.2 (.inr hn))
  brought earlier n later hsplit := by
    have hfirst : known <+: earlier ++ n :: later := hsplit ▸ (prefix_noted _ _).trans h.first
    obtain hn | hbrought := h.brought earlier n later hsplit
    · obtain hn | hn := mem_noted.1 hn
      · exact .inl hn
      · by_cases hold : n ∈ known
        · exact .inl hold
        · have hmem : name ∈ known := List.mem_of_getElem? hname
          exact .inr ⟨name, (prefix_of_notMem hfirst hold).subset hmem, hn⟩
    · exact .inr hbrought
  shown := List.forall_mem_cons.2 ⟨hshown, h.shown⟩

lemma lists_variablesFrom {steps index : Nat} (all : List String) (hdistinct : t.typeVariables.Nodup)
    (hindex : index ≤ t.typeVariables.length) (hknown : t.typeVariables ⊆ all)
    (hbounds : ∀ name, mentionedIn t.bounds name ⊆ all) (hsteps : all.length + 1 ≤ steps + index) :
    Lists t.bounds t.typeVariables index ((variablesFrom steps index).run t).1
      ((variablesFrom steps index).run t).2.typeVariables := by
  induction steps generalizing index t with
  | zero =>
    have hlength := (hdistinct.subperm hknown).length_le
    omega
  | succ steps ih =>
    cases hname : t.typeVariables[index]? with
    | none =>
      have hrun : (variablesFrom (steps + 1) index).run t = ([], t) := by
        rw [variablesFrom]
        simp only [StateT.run_bind, StateT.run_get, pure_bind, hname]
        rfl
      rw [hrun]
      have hrest : t.typeVariables.drop index = [] := List.drop_eq_nil_iff.2 (List.getElem?_eq_none_iff.1 hname)
      refine ⟨List.prefix_refl _, hdistinct, hrest.symm, by simp, fun earlier n later h => .inl ?_, by simp⟩
      rw [h]
      simp
    | some name =>
      obtain ⟨bound, t₁, hnotes, hshown, hrun⟩ := variablesFrom_of_some steps hname
      have hnoted : t₁.typeVariables = noted t.typeVariables (mentionedIn t.bounds name) := hnotes.typeVariables
      have hlt : index + 1 ≤ t₁.typeVariables.length := by
        rw [hnoted]
        exact (List.getElem?_eq_some_iff.1 hname).1.trans_le (prefix_noted _ _).length_le
      have hknown₁ : t₁.typeVariables ⊆ all := by
        intro n hn
        rw [hnoted, mem_noted] at hn
        exact hn.elim (@hknown n) (@hbounds name n)
      have hlists := ih (hnoted ▸ nodup_noted hdistinct) hlt hknown₁ (hnotes.bounds ▸ hbounds) (by omega)
      rw [hnotes.bounds, hnoted] at hlists
      rw [hrun]
      exact hlists.cons hname hshown

mutual

theorem parameterCount_eq : (r : TypeRef) → parameterCount r = (parametersOf r.mentions).length
  | ⟨p, n, as, v⟩ => by
    have hself : TypeRef.mentions ⟨p, n, as, v⟩ = [⟨p, n, as, v⟩] ++ TypeRef.mentionsAll as := by
      rw [TypeRef.mentions, List.singleton_append]
    rw [parameterCount, parameterCounts_eq as, hself, parametersOf_append, List.length_append]
    cases v <;> rfl

theorem parameterCounts_eq : (rs : List TypeRef) →
    parameterCounts rs = (parametersOf (TypeRef.mentionsAll rs)).length
  | [] => rfl
  | r :: rs => by
    rw [parameterCounts, parameterCount_eq r, parameterCounts_eq rs, TypeRef.mentionsAll, parametersOf_append,
      List.length_append]

end

lemma mentionsAll_eq_flatMap (rs : List TypeRef) : TypeRef.mentionsAll rs = rs.flatMap TypeRef.mentions := by
  induction rs with
  | nil => rfl
  | cons r rs ih => rw [TypeRef.mentionsAll, ih, List.flatMap_cons]

lemma mentionedIn_subset (bounds : List (String × TypeRef)) (name : String) :
    mentionedIn bounds name ⊆ parametersOf (TypeRef.mentionsAll (bounds.map Prod.snd)) := by
  intro n hn
  rw [mentionedIn, parametersOf] at hn
  rw [parametersOf, mentionsAll_eq_flatMap]
  obtain ⟨r, hr, rfl⟩ := List.mem_map.1 hn
  obtain ⟨hr, hparameter⟩ := List.mem_filter.1 hr
  obtain ⟨b, hb, hr⟩ := List.mem_flatMap.1 hr
  have hmem : b ∈ bounds.map Prod.snd :=
    List.mem_map.2 ⟨(name, b), Assoc.mem_of_find?_eq_some (Option.mem_toList.1 hb), rfl⟩
  exact List.mem_map_of_mem (List.mem_filter.2 ⟨List.mem_flatMap.2 ⟨b, hmem, hr⟩, hparameter⟩)

lemma lists_variableList (t : ImportTable) (hdistinct : t.typeVariables.Nodup) :
    Lists t.bounds t.typeVariables 0 (variableList.run t).1 (variableList.run t).2.typeVariables := by
  apply lists_variablesFrom (t.typeVariables ++ parametersOf (TypeRef.mentionsAll (t.bounds.map Prod.snd))) hdistinct
    (Nat.zero_le _) (List.subset_append_left _ _)
  · intro name
    exact List.Subset.trans (mentionedIn_subset t.bounds name) (List.subset_append_right _ _)
  · rw [List.length_append, ← parameterCounts_eq]

lemma Lists.eq_known_of_ordered {bounds : List (String × TypeRef)} {known names : List String} {vs : List TypeVariable}
    (h : Lists bounds known 0 vs names) (hordered : Ordered (mentionedIn bounds) known) : names = known := by
  obtain ⟨more, hmore⟩ := h.first
  cases more with
  | nil => rw [← hmore, List.append_nil]
  | cons n more =>
    have hnew : n ∉ known := by
      have hdistinct := h.distinct
      rw [← hmore, List.nodup_append] at hdistinct
      exact fun hn => hdistinct.2.2 n hn n List.mem_cons_self rfl
    obtain hn | ⟨m, hm, hn⟩ := h.brought known n more hmore.symm
    · exact absurd hn hnew
    · obtain ⟨earlier, later, hsplit⟩ := List.append_of_mem hm
      obtain rfl | hn := hordered earlier m later hsplit n hn
      · exact absurd hm hnew
      · exact absurd (hsplit ▸ List.mem_append_left _ hn) hnew

lemma Lists.ordered_iff {bounds : List (String × TypeRef)} {known names : List String} {vs : List TypeVariable}
    (h : Lists bounds known 0 vs names) :
    Ordered (mentionedIn bounds) names ↔ Ordered (mentionedIn bounds) known := by
  constructor
  · rintro hordered earlier n later rfl
    obtain ⟨more, hmore⟩ := h.first
    refine hordered earlier n (later ++ more) ?_
    rw [← hmore, List.append_assoc, List.cons_append]
  · intro hordered
    rwa [h.eq_known_of_ordered hordered]

lemma notes_require (t : ImportTable) (package name : String) : Notes t [] ((require package name).run t).2 := by
  have h := notes_nameOf t { package, name }
  exact ⟨h.typeVariables, h.bounds⟩

end ImportTable

open ImportTable

def boundTable (bounds : List TypeBound) : List (String × TypeRef) :=
  Assoc.ofPairs (bounds.map fun b => (b.parameter, b.bound))

/-- The lines of type variables in a unit, by the references that its signatures name and by the bounds there are. -/
structure Declares (named : List TypeRef) (bounds : List TypeBound) (vs : List TypeVariable) : Prop where
  distinct : (vs.map (·.name)).Nodup
  used : noted [] (parametersOf named) <+: vs.map (·.name)
  complete : ∀ v ∈ vs, mentionedIn (boundTable bounds) v.name ⊆ vs.map (·.name)
  brought : ∀ earlier n later, vs.map (·.name) = earlier ++ n :: later →
    n ∈ parametersOf named ∨ ∃ m ∈ earlier, n ∈ mentionedIn (boundTable bounds) m
  shown : ∀ v ∈ vs, ShowsBound (Assoc.find? v.name (boundTable bounds)) v.bound
  ordered : Ordered (mentionedIn (boundTable bounds)) (vs.map (·.name)) ↔
    Ordered (mentionedIn (boundTable bounds)) (noted [] (parametersOf named))

lemma declares_of_notes {own named : List TypeRef} {bounds : List TypeBound} {t : ImportTable}
    (h : Notes (create own bounds) named t) : Declares named bounds (variableList.run t).1 := by
  have hknown : t.typeVariables = noted [] (parametersOf named) := h.typeVariables
  have hbounds : t.bounds = boundTable bounds := h.bounds
  have hlists := lists_variableList t (hknown ▸ nodup_noted List.nodup_nil)
  rw [hbounds, hknown] at hlists
  have hnames := hlists.rest
  rw [List.drop_zero] at hnames
  exact {
    distinct := hnames ▸ hlists.distinct
    used := hnames ▸ hlists.first
    complete := fun v hv => hnames ▸ hlists.complete v hv
    brought := fun earlier n later hsplit => by
      obtain hn | hn := hlists.brought earlier n later (hnames ▸ hsplit)
      · exact .inl (by simpa [mem_noted] using hn)
      · exact .inr hn
    shown := hlists.shown
    ordered := hnames ▸ hlists.ordered_iff }

namespace InitializerUnit

def named (plan : InitializerPlan) : List TypeRef :=
  plan.owner :: plan.parameters.flatMap (·.type.mentions) ++ plan.base.toList

lemma notes_renderParameters (ps : List InitializerParameter) (t : ImportTable) :
    Notes t (ps.flatMap (·.type.mentions)) ((renderParameters ps).run t).2 := by
  induction ps generalizing t with
  | nil => exact .refl t
  | cons p ps ih => exact (notes_render p.type t).trans (ih _)

lemma exists_notes (plan : InitializerPlan) : ∃ t, Notes (create [] plan.bounds) (named plan) t ∧
    (ofPlan plan).typeVariables = (variableList.run t).1 := by
  have howner := notes_nameOf (create [] plan.bounds) plan.owner
  have hparameters := howner.trans (notes_renderParameters plan.parameters _)
  cases hbase : plan.base with
  | none =>
    have hnamed : named plan = [plan.owner] ++ plan.parameters.flatMap (·.type.mentions) := by
      rw [named, hbase, Option.toList_none, List.append_nil, List.singleton_append]
    refine ⟨_, hnamed ▸ hparameters, ?_⟩
    rw [ofPlan, build, hbase]
    rfl
  | some base =>
    have hnamed : named plan = [plan.owner] ++ plan.parameters.flatMap (·.type.mentions) ++ [base] := by
      rw [named, hbase, Option.toList_some, List.singleton_append]
    refine ⟨_, hnamed ▸ hparameters.trans (notes_nameOf _ base), ?_⟩
    rw [ofPlan, build, hbase]
    rfl

end InitializerUnit

namespace InterfaceUnit

def namedByMember (m : MemberDeclaration) : List TypeRef :=
  m.type.mentions ++ if m.kind = .method then m.parameters.flatMap (·.type.mentions) else []

def named (plan : InterfacePlan) : List TypeRef :=
  TypeRef.mentionsAll plan.parents ++ TypeRef.mentionsAll plan.ref.typeParameters ++ plan.members.flatMap namedByMember

lemma notes_renderParameters (ps : List Parameter) (t : ImportTable) :
    Notes t (ps.flatMap (·.type.mentions)) ((renderParameters ps).run t).2 := by
  induction ps generalizing t with
  | nil => exact .refl t
  | cons p ps ih => exact (notes_render p.type t).trans (ih _)

lemma notes_renderMember (m : MemberDeclaration) (t : ImportTable) :
    Notes t (namedByMember m) ((renderMember m).run t).2 := by
  have htype := notes_render m.type t
  have habstract := notes_require ((render m.type).run t).2 "abc" "abstractmethod"
  rw [namedByMember]
  cases hkind : m.kind with
  | method =>
    have hparameters := (htype.trans habstract).trans (notes_renderParameters m.parameters _)
    rw [List.append_nil] at hparameters
    rw [renderMember, hkind]
    exact hparameters
  | property =>
    rw [renderMember, hkind]
    exact htype.trans habstract
  | field =>
    rw [renderMember, hkind]
    exact htype.trans (.refl _)
  | event =>
    rw [renderMember, hkind]
    exact htype.trans (.refl _)
  | constructor =>
    rw [renderMember, hkind]
    exact htype.trans (.refl _)

lemma notes_renderMembers (ms : List MemberDeclaration) (t : ImportTable) :
    Notes t (ms.flatMap namedByMember) ((renderMembers ms).run t).2 := by
  induction ms generalizing t with
  | nil => exact .refl t
  | cons m ms ih => exact (notes_renderMember m t).trans (ih _)

lemma notes_renderParents (plan : InterfacePlan) (abc : String) (t : ImportTable) :
    Notes t (TypeRef.mentionsAll plan.parents ++ TypeRef.mentionsAll plan.ref.typeParameters)
      ((renderParents plan abc).run t).2 := by
  have hparents := notes_renderAll plan.parents t
  rw [renderParents]
  cases htypes : plan.ref.typeParameters with
  | nil => exact hparents.trans (.refl _)
  | cons r rs =>
    have hgeneric := hparents.trans (notes_require _ "typing" "Generic")
    rw [List.append_nil] at hgeneric
    exact hgeneric.trans (notes_renderAll (r :: rs) _)

lemma exists_notes (plan : InterfacePlan) : ∃ t, Notes (create [plan.ref] plan.bounds) (named plan) t ∧
    (ofPlan plan).typeVariables = (variableList.run t).1 := by
  let t := create [plan.ref] plan.bounds
  have habc := notes_require t "abc" "ABC"
  have hparents := habc.trans (notes_renderParents plan ((require "abc" "ABC").run t).1 _)
  exact ⟨_, hparents.trans (notes_renderMembers plan.members _), rfl⟩

end InterfaceUnit

/-- In every unit the lines of type variables are those that are used and those that bounds bring in, one for each; no
line mentions a later one exactly if the used ones alone are in order. -/
theorem variables_declared (initializer : InitializerPlan) (interface : InterfacePlan) :
    Declares (InitializerUnit.named initializer) initializer.bounds
        (InitializerUnit.ofPlan initializer).typeVariables ∧
      Declares (InterfaceUnit.named interface) interface.bounds (InterfaceUnit.ofPlan interface).typeVariables := by
  constructor
  · obtain ⟨t, hnotes, hvariables⟩ := InitializerUnit.exists_notes initializer
    exact hvariables ▸ declares_of_notes hnotes
  · obtain ⟨t, hnotes, hvariables⟩ := InterfaceUnit.exists_notes interface
    exact hvariables ▸ declares_of_notes hnotes

/-! Shelves for books, where a book is bound to its pages. -/

namespace Shelves

def parameter (name : String) : TypeRef where
  name
  isTypeParameter := true

def book : TypeRef where
  package := "app"
  name := "Book"
  arguments := [parameter "P"]

def plan : InitializerPlan where
  owner := { package := "app", name := "Shelf", arguments := [parameter "B"] }
  parameters := [{
    name := "first"
    type := parameter "B"
    member := { name := "_first", type := parameter "B" }
    declaredBy := { package := "app", name := "Shelf", arguments := [parameter "B"] } }]
  assignments := [("_first", "first")]
  bounds := [{ parameter := "B", bound := book }]

lemma mentionedIn_plan (name : String) :
    mentionedIn (boundTable plan.bounds) name = if name = "B" then ["P"] else [] := by
  have htable : boundTable plan.bounds = [("B", book)] := by rfl
  rw [mentionedIn, htable, Assoc.find?]
  by_cases h : "B" = name
  · subst h
    rfl
  · rw [if_neg h, if_neg (Ne.symm h)]
    rfl

theorem page_below_book :
    (∀ n, ¬Relation.TransGen (fun n m => m ∈ mentionedIn (boundTable plan.bounds) n) n n) ∧
      (InitializerUnit.ofPlan plan).typeVariables.map TypeVariable.text =
        ["B = TypeVar(\"B\", bound=Book[P])", "P = TypeVar(\"P\")"] ∧
      ¬Ordered (mentionedIn (boundTable plan.bounds)) ((InitializerUnit.ofPlan plan).typeVariables.map (·.name)) := by
  refine ⟨fun n h => ?_, by decide +kernel, fun hordered => ?_⟩
  · obtain ⟨m, hfirst, -⟩ := Relation.TransGen.head'_iff.1 h
    obtain ⟨k, -, hlast⟩ := Relation.TransGen.tail'_iff.1 h
    simp only [mentionedIn_plan] at hfirst hlast
    split at hfirst
    · rename_i hbook
      split at hlast
      · rw [hbook] at hlast
        simp at hlast
      · simp at hlast
    · simp at hfirst
  · have hnames : (InitializerUnit.ofPlan plan).typeVariables.map (·.name) = ["B", "P"] := by rfl
    rw [hnames] at hordered
    have hpage := hordered [] "B" ["P"] rfl "P" (by rw [mentionedIn_plan]; decide)
    simp at hpage

end Shelves

end Wiring
