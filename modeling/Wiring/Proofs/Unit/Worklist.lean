import Wiring.Proofs.Unit.Variables

/-!
The list of type variables, which grows while it is gone through. It ends once what bounds bring in is all there, and
then it holds what can be reached from the variables that are used; going through it again finds every name given.
-/

namespace Wiring

namespace ImportTable

variable {t t' u : ImportTable} {bounds : List (String × TypeRef)} {known names : List String} {vs : List TypeVariable}
  {steps index : Nat}

def Brings (bounds : List (String × TypeRef)) (m n : String) : Prop :=
  n ∈ mentionedIn bounds m

/-! What is listed is what can be reached. -/

lemma Lists.reached (h : Lists bounds known index vs names) {n : String} (hn : n ∈ names) :
    ∃ m ∈ known, Relation.ReflTransGen (Brings bounds) m n := by
  obtain ⟨earlier, later, hsplit⟩ := List.append_of_mem hn
  -- on what stands before it, for whatever brings it in stands there
  induction hlength : earlier.length using Nat.strong_induction_on generalizing earlier n later with
  | _ length ih =>
    obtain hknown | ⟨b, hb, hbrings⟩ := h.brought earlier n later hsplit
    · exact ⟨n, hknown, .refl⟩
    · obtain ⟨before, after, rfl⟩ := List.append_of_mem hb
      have hshorter : before.length < length := by
        rw [← hlength, List.length_append, List.length_cons]
        omega
      obtain ⟨m, hm, hpath⟩ := ih _ hshorter (hsplit ▸ List.mem_append_left _ hb) before (after ++ n :: later)
        (by rw [hsplit, List.append_assoc, List.cons_append]) rfl
      exact ⟨m, hm, hpath.tail hbrings⟩

lemma Lists.mem_of_reached (h : Lists bounds known 0 vs names) {m n : String} (hm : m ∈ known)
    (hpath : Relation.ReflTransGen (Brings bounds) m n) : n ∈ names := by
  induction hpath with
  | refl => exact h.first.subset hm
  | tail _ hbrings ih =>
    have hrest := h.rest
    rw [List.drop_zero] at hrest
    obtain ⟨v, hv, rfl⟩ := List.mem_map.1 (hrest ▸ ih)
    exact h.complete v hv hbrings

/-! Names that are given stay, so what was shown is shown again. -/

def Keeps (t t' : ImportTable) : Prop :=
  ∀ r a, t.Knows r a → t'.Knows r a

lemma Keeps.refl (t : ImportTable) : Keeps t t :=
  fun _ _ h => h

lemma Keeps.trans (h : Keeps t t') (h' : Keeps t' u) : Keeps t u :=
  fun r a hr => h' r a (h r a hr)

mutual

theorem keeps_render : (r : TypeRef) → (t : ImportTable) → Keeps t ((render r).run t).2
  | ⟨p, n, as, v⟩, t => by
    have hfirst : Keeps t (t.nameOf ⟨p, n, as, v⟩).2 := fun _ _ h => h.nameOf _
    exact hfirst.trans (keeps_renderAll as _)

theorem keeps_renderAll : (rs : List TypeRef) → (t : ImportTable) → Keeps t ((renderAll rs).run t).2
  | [], t => .refl t
  | r :: rs, t => (keeps_render r t).trans (keeps_renderAll rs _)

end

lemma run_render (p n : String) (as : List TypeRef) (v : Bool) (t : ImportTable) :
    (render ⟨p, n, as, v⟩).run t = (.mk (t.nameOf ⟨p, n, as, v⟩).1 ((renderAll as).run (t.nameOf ⟨p, n, as, v⟩).2).1,
      ((renderAll as).run (t.nameOf ⟨p, n, as, v⟩).2).2) :=
  rfl

lemma run_renderAll_cons (r : TypeRef) (rs : List TypeRef) (t : ImportTable) :
    (renderAll (r :: rs)).run t = (((render r).run t).1 :: ((renderAll rs).run ((render r).run t).2).1,
      ((renderAll rs).run ((render r).run t).2).2) :=
  rfl

mutual

theorem render_again : (r : TypeRef) → {t u : ImportTable} → Keeps ((render r).run t).2 u →
    (render r).run u = (((render r).run t).1, u)
  | ⟨p, n, as, v⟩, t, u, h => by
    have hknows : u.nameOf ⟨p, n, as, v⟩ = ((t.nameOf ⟨p, n, as, v⟩).1, u) :=
      h _ _ (keeps_renderAll as _ _ _ (knows_nameOf t _))
    rw [run_render] at h
    rw [run_render, hknows, renderAll_again as h, run_render]

theorem renderAll_again : (rs : List TypeRef) → {t u : ImportTable} → Keeps ((renderAll rs).run t).2 u →
    (renderAll rs).run u = (((renderAll rs).run t).1, u)
  | [], _, _, _ => rfl
  | r :: rs, t, u, h => by
    rw [run_renderAll_cons] at h
    rw [run_renderAll_cons, render_again r ((keeps_renderAll rs _).trans h), renderAll_again rs h, run_renderAll_cons]

end

/-! One line, and what stays of it. -/

def lineOf (t : ImportTable) (n : String) : TypeVariable where
  name := n
  bound := (Assoc.find? n t.bounds).map fun b => ((render b).run t).1

def afterLine (t : ImportTable) (n : String) : ImportTable :=
  (Assoc.find? n t.bounds).elim t fun b => ((render b).run t).2

lemma notes_afterLine (t : ImportTable) (n : String) :
    Notes t ((Assoc.find? n t.bounds).toList.flatMap TypeRef.mentions) (t.afterLine n) := by
  rw [afterLine]
  cases Assoc.find? n t.bounds with
  | none => exact .refl t
  | some b => simpa using notes_render b t

lemma keeps_afterLine (t : ImportTable) (n : String) : Keeps t (t.afterLine n) := by
  rw [afterLine]
  cases Assoc.find? n t.bounds with
  | none => exact .refl t
  | some b => exact keeps_render b t

lemma line_again {n : String} (h : Keeps (t.afterLine n) u) (hbounds : u.bounds = t.bounds) :
    u.lineOf n = t.lineOf n ∧ u.afterLine n = u := by
  rw [afterLine] at h
  rw [lineOf, lineOf, afterLine, hbounds]
  cases hb : Assoc.find? n t.bounds with
  | none => exact ⟨rfl, rfl⟩
  | some b =>
    rw [hb] at h
    have hagain := render_again b h
    simp [hagain]

lemma run_variablesFrom_of_none (steps : Nat) (h : t.typeVariables[index]? = none) :
    (variablesFrom steps index).run t = ([], t) := by
  cases steps with
  | zero => rfl
  | succ steps =>
    rw [variablesFrom]
    simp only [StateT.run_bind, StateT.run_get, pure_bind, h]
    rfl

lemma run_variablesFrom_of_some (steps : Nat) {n : String} (h : t.typeVariables[index]? = some n) :
    (variablesFrom (steps + 1) index).run t = (t.lineOf n :: ((variablesFrom steps (index + 1)).run (t.afterLine n)).1,
      ((variablesFrom steps (index + 1)).run (t.afterLine n)).2) := by
  rw [variablesFrom, lineOf, afterLine]
  cases hb : Assoc.find? n t.bounds with
  | none =>
    simp only [bind_pure_comp, pure_bind, bind_map_left, StateT.run_bind, StateT.run_get, h, hb, StateT.run_map]
    rfl
  | some b =>
    simp only [bind_pure_comp, pure_bind, bind_map_left, StateT.run_bind, StateT.run_get, h, hb, StateT.run_map]
    rfl

/-! All lines. -/

lemma keeps_variablesFrom (steps index : Nat) (t : ImportTable) :
    Keeps t ((variablesFrom steps index).run t).2 ∧ ((variablesFrom steps index).run t).2.bounds = t.bounds := by
  induction steps generalizing index t with
  | zero => exact ⟨.refl t, rfl⟩
  | succ steps ih =>
    cases hn : t.typeVariables[index]? with
    | none =>
      rw [run_variablesFrom_of_none _ hn]
      exact ⟨.refl t, rfl⟩
    | some n =>
      rw [run_variablesFrom_of_some _ hn]
      obtain ⟨hkeeps, hbounds⟩ := ih (index + 1) (t.afterLine n)
      exact ⟨(keeps_afterLine t n).trans hkeeps, hbounds.trans (notes_afterLine t n).bounds⟩

lemma lines_again (steps index : Nat) (h : Keeps ((variablesFrom steps index).run t).2 u)
    (hbounds : u.bounds = t.bounds) :
    ∀ v ∈ ((variablesFrom steps index).run t).1, u.lineOf v.name = v ∧ u.afterLine v.name = u := by
  induction steps generalizing index t with
  | zero => exact fun v hv => absurd hv List.not_mem_nil
  | succ steps ih =>
    cases hn : t.typeVariables[index]? with
    | none =>
      rw [run_variablesFrom_of_none _ hn]
      exact fun v hv => absurd hv List.not_mem_nil
    | some n =>
      rw [run_variablesFrom_of_some _ hn] at h ⊢
      refine List.forall_mem_cons.2 ⟨?_, ih (index + 1) h (hbounds.trans (notes_afterLine t n).bounds.symm)⟩
      exact line_again ((keeps_variablesFrom steps (index + 1) _).1.trans h) hbounds

lemma run_variablesFrom_of_settled (h : ∀ n ∈ t.typeVariables.drop index, t.afterLine n = t)
    (hsteps : t.typeVariables.length ≤ steps + index) :
    (variablesFrom steps index).run t = ((t.typeVariables.drop index).map t.lineOf, t) := by
  induction steps generalizing index with
  | zero =>
    rw [List.drop_eq_nil_of_le (by omega)]
    rfl
  | succ steps ih =>
    cases hn : t.typeVariables[index]? with
    | none =>
      rw [run_variablesFrom_of_none _ hn, List.drop_eq_nil_of_le (List.getElem?_eq_none_iff.1 hn)]
      rfl
    | some n =>
      obtain ⟨hlt, hget⟩ := List.getElem?_eq_some_iff.1 hn
      rw [List.drop_eq_getElem_cons hlt, hget] at h ⊢
      obtain ⟨hfirst, hrest⟩ := List.forall_mem_cons.1 h
      rw [run_variablesFrom_of_some _ hn, hfirst, ih hrest (by omega), List.map_cons]

lemma run_variablesFrom_of_le {more : Nat} (hmore : steps ≤ more)
    (hend : ((variablesFrom steps index).run t).2.typeVariables.length ≤
      index + ((variablesFrom steps index).run t).1.length) :
    (variablesFrom more index).run t = (variablesFrom steps index).run t := by
  induction steps generalizing index t more with
  | zero => exact run_variablesFrom_of_none more (List.getElem?_eq_none_iff.2 hend)
  | succ steps ih =>
    obtain ⟨more, rfl⟩ := Nat.exists_eq_add_of_le' hmore
    cases hn : t.typeVariables[index]? with
    | none => rw [run_variablesFrom_of_none _ hn, run_variablesFrom_of_none _ hn]
    | some n =>
      rw [run_variablesFrom_of_some steps hn, List.length_cons] at hend
      have hend' : ((variablesFrom steps (index + 1)).run (t.afterLine n)).2.typeVariables.length ≤
          index + 1 + ((variablesFrom steps (index + 1)).run (t.afterLine n)).1.length := by
        dsimp only at hend
        omega
      have hrest := ih (Nat.le_add_left steps more) hend'
      rw [run_variablesFrom_of_some _ hn, ← Nat.add_assoc, run_variablesFrom_of_some _ hn, hrest]

lemma variableList_again {lines : List TypeVariable} (hrun : variableList.run t = (lines, t'))
    (hnames : lines.map (·.name) = t'.typeVariables) :
    (∀ v ∈ lines, t'.lineOf v.name = v) ∧ variableList.run t' = (lines, t') := by
  obtain ⟨steps, hsteps⟩ : ∃ steps, (variablesFrom steps 0).run t = (lines, t') := ⟨_, hrun⟩
  obtain ⟨-, hbounds⟩ := keeps_variablesFrom steps 0 t
  have hagain := lines_again steps 0 (.refl _) hbounds
  rw [hsteps] at hagain
  have hsettled : ∀ n ∈ t'.typeVariables, t'.afterLine n = t' := by
    rw [← hnames]
    exact List.forall_mem_map.2 fun v hv => (hagain v hv).2
  have hlines : t'.typeVariables.map t'.lineOf = lines := by
    rw [← hnames, List.map_map]
    exact (List.map_congr_left fun v hv => (hagain v hv).1).trans (List.map_id lines)
  refine ⟨fun v hv => (hagain v hv).1, ?_⟩
  have hsecond : variableList.run t' = (t'.typeVariables.map t'.lineOf, t') := by
    apply run_variablesFrom_of_settled
    · exact hsettled
    · omega
  rw [hsecond, hlines]

/-! What is named before. -/

lemma Use.notes_named (u : Use) (t : ImportTable) : Notes t u.references (u.named.run t).2 := by
  cases u with
  | name r => exact notes_nameOf t r
  | render r => exact notes_render r t
  | require p n => exact notes_nameOf t { package := p, name := n }

lemma notes_namedIn (uses : List Use) (t : ImportTable) :
    Notes t (uses.flatMap Use.references) ((namedIn uses).run t).2 := by
  induction uses generalizing t with
  | nil => exact .refl t
  | cons u us ih => exact (u.notes_named t).trans (ih _)

/-- Going through the list of type variables comes to an end, whatever the bounds lead to: the lines are those of the
names that are used and of what can be reached from them, and the same once more. -/
theorem worklist_exact (own : List TypeRef) (bounds : List TypeBound) (uses : List Use) :
    let t := ((namedIn uses).run (create own bounds)).2
    let (lines, t') := variableList.run t
    let used := noted [] (parametersOf (uses.flatMap Use.references))
    (∃ enough, ∀ steps ≥ enough, (variablesFrom steps 0).run t = (lines, t')) ∧
      (lines.map (·.name)).Nodup ∧
      (∀ n, n ∈ lines.map (·.name) ↔ ∃ m ∈ used, Relation.ReflTransGen (Brings (boundTable bounds)) m n) ∧
      used <+: lines.map (·.name) ∧
      (∀ v ∈ lines, t'.lineOf v.name = v) ∧
      variableList.run t' = (lines, t') := by
  intro t
  have hnotes : Notes (create own bounds) (uses.flatMap Use.references) t := notes_namedIn uses _
  have hused : t.typeVariables = noted [] (parametersOf (uses.flatMap Use.references)) := hnotes.typeVariables
  have hbounds : t.bounds = boundTable bounds := hnotes.bounds
  have hlists := lists_variableList t (hused ▸ nodup_noted List.nodup_nil)
  rw [hbounds, hused] at hlists
  cases hrun : variableList.run t with
  | mk lines t' =>
    rw [hrun] at hlists
    have hnames : lines.map (·.name) = t'.typeVariables := by rw [hlists.rest, List.drop_zero]
    refine ⟨?_, hnames ▸ hlists.distinct, fun n => ?_, hnames ▸ hlists.first, variableList_again hrun hnames⟩
    · obtain ⟨enough, henough⟩ : ∃ enough, (variablesFrom enough 0).run t = (lines, t') := ⟨_, hrun⟩
      refine ⟨enough, fun steps h => ?_⟩
      rw [run_variablesFrom_of_le h, henough]
      rw [henough, ← hnames, List.length_map, Nat.zero_add]
    · rw [hnames]
      exact ⟨hlists.reached, fun ⟨m, hm, hpath⟩ => hlists.mem_of_reached hm hpath⟩

example :
    let boxed (name : String) : TypeRef := { package := "app", name := "Box", arguments := [Shelves.parameter name] }
    let bounds : List TypeBound := [⟨"T", boxed "K"⟩, ⟨"K", boxed "T"⟩, ⟨"N", boxed "N"⟩]
    let t := ((namedIn [.name (Shelves.parameter "K")]).run (create [] bounds)).2
    (variableList.run t).1.map TypeVariable.text =
      ["K = TypeVar(\"K\", bound=Box[T])", "T = TypeVar(\"T\", bound=Box[K])"] := by
  decide +kernel

end ImportTable

end Wiring
