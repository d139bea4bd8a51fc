import Mathlib.Data.List.Basic
import Wiring.Proofs.Container.Lifetime

/-!
One request at a time. A request is settled by what there is, or an instance is constructed for it while the service
is held on the path. What enough depth answers more depth answers too.
-/

namespace Wiring.Container

open World

variable {rs : Registrations} {w w' u : World} {p : Nat} {service : TypeExpr} {l : Lifetime} {v : Value}

def Provider.emptied (s : Provider) : Provider :=
  { s with instances := [] }

namespace World

structure OfTree (rs : Registrations) (w : World) : Prop where
  trees : w.trees ≠ []
  providers : ∀ s ∈ w.providers, s.tree = 0 ∧ s.registrations = rs

namespace OfTree

lemma tree_provider (h : OfTree rs w) (hp : p < w.providers.length) : (w.provider p).tree = 0 :=
  (h.providers _ (provider_mem hp)).1

lemma registrations (h : OfTree rs w) (hp : p < w.providers.length) : (w.provider p).registrations = rs :=
  (h.providers _ (provider_mem hp)).2

lemma tree_eq_root (h : OfTree rs w) (hp : p < w.providers.length) : w.tree p = w.root :=
  World.tree_eq_root (h.tree_provider hp)

lemma modifyTree (h : OfTree rs w) (p : Nat) (f : Tree → Tree) : OfTree rs (w.modifyTree p f) where
  trees := by simpa [World.modifyTree, ← List.length_eq_zero_iff] using h.trees
  providers := h.providers

lemma modifyProvider (h : OfTree rs w) (p : Nat) {f : Provider → Provider}
    (hf : ∀ s, (f s).tree = s.tree ∧ (f s).registrations = s.registrations) : OfTree rs (w.modifyProvider p f) where
  trees := h.trees
  providers s hs := by
    obtain ⟨q, hq⟩ := List.mem_iff_getElem?.1 hs
    rw [World.modifyProvider, List.getElem?_modify] at hq
    obtain ⟨s', hs', heq⟩ := Option.map_eq_some_iff.1 hq
    have hmem := h.providers s' (List.mem_of_getElem? hs')
    by_cases hpq : p = q
    · rw [if_pos hpq] at heq
      rw [← heq, (hf s').1, (hf s').2]
      exact hmem
    · rw [if_neg hpq] at heq
      exact heq ▸ hmem

lemma keep (h : OfTree rs w) (p : Nat) (key : TypeExpr) (v : Value) (l : Lifetime) : OfTree rs (w.keep p key v l) := by
  cases l with
  | singleton => exact h.modifyTree p _
  | «scoped» => exact h.modifyProvider p fun _ => ⟨rfl, rfl⟩
  | transient => exact h

lemma setPath (h : OfTree rs w) (p : Nat) (path : ResolutionPath) : OfTree rs (w.setPath p path) :=
  h.modifyTree p _

lemma of_agrees (h : OfTree rs w) (ha : Agrees w w') : OfTree rs w' where
  trees := ha.trees ▸ h.trees
  providers := ha.providers ▸ h.providers

lemma addScope (h : OfTree rs w) (hp : p < w.providers.length) : OfTree rs (w.addScope p).2 where
  trees := h.trees
  providers s hs := by
    obtain hs | hs := List.mem_append.1 hs
    · exact h.providers s hs
    · rw [List.mem_singleton.1 hs]
      exact ⟨h.tree_provider hp, h.registrations hp⟩

lemma close (h : OfTree rs w) (p : Nat) : OfTree rs (w.close p) := by
  have hclosed := h.modifyProvider p (f := fun s => { s with instances := [], isClosed := true }) fun _ => ⟨rfl, rfl⟩
  rw [World.close]
  split
  · exact hclosed
  · exact hclosed.modifyTree p _

end OfTree

lemma ofTree_build (rs : Registrations) : OfTree rs (build rs {}).2 where
  trees := List.cons_ne_nil _ _
  providers s hs := by
    rw [List.mem_singleton.1 hs]
    exact ⟨rfl, rfl⟩

lemma setPath_setPath (a b : ResolutionPath) : (w.setPath p a).setPath p b = w.setPath p b := by
  rw [setPath, modifyTree, provider_setPath]
  simp only [setPath, modifyTree, List.modify_modify_eq]
  rfl

lemma setPath_self (h : OfTree rs w) (hp : p < w.providers.length) : w.setPath p w.root.path = w := by
  have hmodify : w.trees.modify 0 (fun t => { t with path := w.root.path }) = w.trees := by
    cases htrees : w.trees with
    | nil => rfl
    | cons t ts =>
      rw [root, htrees]
      rfl
  rw [setPath, modifyTree, h.tree_provider hp, hmodify]

lemma root_setPath (path : ResolutionPath) (h : OfTree rs w) (hp : p < w.providers.length) :
    (w.setPath p path).root = { w.root with path } := by
  rw [setPath, root_modifyTree _ (h.tree_provider hp) h.trees]

lemma holding_setPath (path : ResolutionPath) (key : TypeExpr) (l : Lifetime) (h : OfTree rs w)
    (hp : p < w.providers.length) : (w.setPath p path).holding p key l = w.holding p key l := by
  unfold holding
  rw [(h.setPath p path).tree_eq_root hp, root_setPath path h hp, h.tree_eq_root hp, provider_setPath]

end World

inductive Standing where
  | settled (r : Except Failure Value)
  | pending (r : Registration) (implementation : TypeExpr)

namespace World

def standing (w : World) (p : Nat) (service : TypeExpr) : Standing :=
  if (w.provider p).isClosed then .settled (.error (.scope "Cannot resolve from a closed provider"))
  else if service.isProvider then .settled (.ok (.provider p))
  else match service.asKey with
    | .error f => .settled (.error f)
    | .ok _ =>
      match (w.provider p).registrations.lookup service with
      | .error fault => .settled (.error (.unresolvable service (some ((w.tree p).path.explain fault.reason))))
      | .ok (r, implementation) =>
        match (w.tree p).path.enter service with
        | .error f => .settled (.error f)
        | .ok _ =>
          match w.holding p service r.lifetime with
          | .cached v => .settled (.ok v)
          | .refused f => .settled (.error f)
          | .create => .pending r implementation

def conclude (p : Nat) (service : TypeExpr) (l : Lifetime) (s : Except Failure Value) (w : World) : World :=
  let w := match s with
    | .ok v => w.keep p service v l
    | .error _ => w
  w.setPath p (w.tree p).path.leave

def answered (p : Nat) (service : TypeExpr) (r : Except Failure Value) (w : World) : World :=
  match r with
  | .ok v => w.deliver { provider := p, service, value := v }
  | .error _ => w

/-! What becomes of the world when a construction is concluded. -/

lemma emptied_modifyProvider {f : Provider → Provider} (hf : ∀ s, (f s).emptied = s.emptied) :
    (w.modifyProvider p f).providers.map Provider.emptied = w.providers.map Provider.emptied := by
  apply List.ext_getElem?
  intro q
  simp only [modifyProvider, List.getElem?_map, List.getElem?_modify]
  by_cases hpq : p = q
  · cases w.providers[q]? with
    | none => rfl
    | some s => simp [hpq, hf]
  · simp [hpq]

lemma emptied_conclude (service : TypeExpr) (l : Lifetime) (s : Except Failure Value) :
    (w.conclude p service l s).providers.map Provider.emptied = w.providers.map Provider.emptied := by
  cases s with
  | error e => rfl
  | ok v =>
    cases l with
    | «scoped» => exact emptied_modifyProvider fun _ => rfl
    | _ => rfl

lemma length_of_emptied (h : w'.providers.map Provider.emptied = w.providers.map Provider.emptied) :
    w'.providers.length = w.providers.length := by
  have hlength := congrArg List.length h
  rwa [List.length_map, List.length_map] at hlength

lemma emptied_provider (h : w'.providers.map Provider.emptied = w.providers.map Provider.emptied)
    (hp : p < w.providers.length) : (w'.provider p).emptied = (w.provider p).emptied := by
  have hp' : p < w'.providers.length := length_of_emptied h ▸ hp
  have hget := congrArg (·[p]?) h
  simp only [List.getElem?_map, List.getElem?_eq_getElem hp, List.getElem?_eq_getElem hp', Option.map_some] at hget
  rw [provider, provider, List.getElem?_eq_getElem hp, List.getElem?_eq_getElem hp']
  exact Option.some.inj hget

lemma length_keep : (w.keep p service v l).providers.length = w.providers.length := by
  cases l with
  | «scoped» => exact List.length_modify ..
  | _ => rfl

lemma OfTree.conclude (hw : OfTree rs w) (p : Nat) (service : TypeExpr) (l : Lifetime) (s : Except Failure Value) :
    OfTree rs (w.conclude p service l s) := by
  cases s with
  | ok v => exact (hw.keep p service v l).setPath p _
  | error e => exact hw.setPath p _

lemma path_keep (hw : OfTree rs w) (hp : p < w.providers.length) :
    (w.keep p service v l).root.path = w.root.path := by
  cases l with
  | singleton => rw [keep, root_modifyTree _ (hw.tree_provider hp) hw.trees]
  | _ => rfl

lemma path_conclude (hw : OfTree rs w) (hp : p < w.providers.length) (s : Except Failure Value) :
    (w.conclude p service l s).root.path = w.root.path.leave := by
  have hleave {u : World} (hu : OfTree rs u) (hpu : p < u.providers.length) :
      (u.setPath p (u.tree p).path.leave).root.path = u.root.path.leave := by
    rw [root_setPath _ hu hpu, hu.tree_eq_root hpu]
  cases s with
  | ok v =>
    have hpu : p < (w.keep p service v l).providers.length := by rwa [length_keep]
    rw [World.conclude, hleave (hw.keep p service v l) hpu, path_keep hw hp]
  | error e => exact hleave hw hp

lemma kept_conclude_ok (hw : OfTree rs w) (hp : p < w.providers.length) (k : Place) :
    (w.conclude p service l (.ok v)).kept k = if Place.of? p service l = some k then some v else w.kept k := by
  have hpu : p < (w.keep p service v l).providers.length := by rwa [length_keep]
  have hu : OfTree rs (w.keep p service v l) := hw.keep p service v l
  rw [World.conclude, kept_setPath _ (hu.tree_provider hpu) hu.trees, kept_keep hp (hw.tree_provider hp) hw.trees]

lemma kept_conclude_error (hw : OfTree rs w) (hp : p < w.providers.length) (e : Failure) (k : Place) :
    (w.conclude p service l (.error e)).kept k = w.kept k :=
  kept_setPath _ (hw.tree_provider hp) hw.trees

lemma kept_answered (r : Except Failure Value) (k : Place) : (w.answered p service r).kept k = w.kept k := by
  cases r <;> rfl

lemma root_answered (r : Except Failure Value) : (w.answered p service r).root = w.root := by
  cases r <;> rfl

lemma providers_answered (r : Except Failure Value) : (w.answered p service r).providers = w.providers := by
  cases r <;> rfl

lemma OfTree.answered (hw : OfTree rs w) (p : Nat) (service : TypeExpr) (r : Except Failure Value) :
    OfTree rs (w.answered p service r) := by
  cases r with
  | ok v => exact ⟨hw.trees, hw.providers⟩
  | error e => exact hw

structure Begins (rs : Registrations) (w : World) (p : Nat) (service : TypeExpr) (r : Registration)
    (implementation : TypeExpr) : Prop where
  isOpen : (w.provider p).isClosed = false
  isProvider : service.isProvider = false
  isKey : service.unkeyable? = none
  lookup : rs.lookup service = .ok (r, implementation)
  notEntered : service.identity ∉ w.root.path.map TypeExpr.identity
  holding : w.holding p service r.lifetime = .create

variable {r : Registration} {implementation : TypeExpr}

lemma asKey_eq_ok {identity : TypeExpr} (h : service.asKey = .ok identity) : service.unkeyable? = none := by
  unfold TypeExpr.asKey at h
  split at h
  · cases h
  · assumption

lemma standing_of_lookup (hw : OfTree rs w) (hopen : (w.provider p).isClosed = false)
    (hprovider : service.isProvider = false) (hkey : service.unkeyable? = none)
    (hlookup : rs.lookup service = .ok (r, implementation)) :
    w.standing p service = match w.root.path.enter service with
      | .error f => .settled (.error f)
      | .ok _ =>
        match w.holding p service r.lifetime with
        | .cached v => .settled (.ok v)
        | .refused f => .settled (.error f)
        | .create => .pending r implementation := by
  have hp : p < w.providers.length := lt_of_isClosed hopen
  unfold standing
  rw [hopen, if_neg Bool.false_ne_true, hprovider, if_neg Bool.false_ne_true, TypeExpr.asKey, hkey,
    hw.registrations hp, hlookup, hw.tree_eq_root hp]

lemma begins_of_standing (hw : OfTree rs w) (h : w.standing p service = .pending r implementation) :
    Begins rs w p service r implementation := by
  unfold standing at h
  cases hclosed : (w.provider p).isClosed with
  | true =>
    rw [hclosed] at h
    cases h
  | false =>
    have hp : p < w.providers.length := lt_of_isClosed hclosed
    rw [hclosed, if_neg Bool.false_ne_true, hw.registrations hp, hw.tree_eq_root hp] at h
    cases hprovider : service.isProvider with
    | true =>
      rw [hprovider] at h
      cases h
    | false =>
      rw [hprovider, if_neg Bool.false_ne_true] at h
      split at h
      · cases h
      · rename_i hkey
        split at h
        · cases h
        · rename_i hlookup
          split at h
          · cases h
          · rename_i henter
            split at h
            · cases h
            · cases h
            · rename_i hholding
              cases h
              exact ⟨hclosed, hprovider, asKey_eq_ok hkey, hlookup, (ResolutionPath.enter_eq_ok henter).2, hholding⟩

end World

namespace Resolving

variable {t : ClassTable} {ask : Ask} {r : Registration} {implementation : TypeExpr}

lemma mapFailure_of_eq_some {α : Type} {x : Resolving α} {g : Failure → Failure} {r : Except Failure α}
    (h : x w = some (r, w')) : mapFailure g x w = some (r.mapError g, w') := by
  rw [mapFailure, h]
  rfl

lemma getOrCreate_eq (create : Resolving Value) :
    getOrCreate p service l create w = match w.holding p service l with
      | .cached v => some (.ok v, w)
      | .refused f => some (.error f, w)
      | .create => (create w).map fun (s, u) =>
        (s.mapError (.ofCreation service), match s with
          | .ok v => u.keep p service v l
          | .error _ => u) := by
  rw [getOrCreate, get_bind]
  cases w.holding p service l with
  | cached v => rfl
  | refused f => rfl
  | create =>
    cases hcreate : create w with
    | none =>
      have hnone : mapFailure (.ofCreation service) create w = none := by rw [mapFailure, hcreate]; rfl
      change (mapFailure (.ofCreation service) create w).bind _ = none
      rw [hnone]
      rfl
    | some o =>
      obtain ⟨s, u⟩ := o
      have hsome := mapFailure_of_eq_some (g := .ofCreation service) hcreate
      cases s with
      | ok v => exact bind_of_ok hsome
      | error e => exact bind_of_error hsome

lemma supply_eq (hw : OfTree rs w) :
    supply t ask p service w = match w.standing p service with
      | .settled r => some (r, w)
      | .pending r implementation =>
        (create t ask p r implementation (w.setPath p (w.root.path ++ [service]))).map fun (s, u) =>
          (s.mapError (.ofCreation service), u.conclude p service r.lifetime s) := by
  change (if (w.provider p).isClosed then _ else _ : Resolving Value) w = _
  unfold standing
  cases hclosed : (w.provider p).isClosed with
  | true => rfl
  | false =>
    have hp : p < w.providers.length := lt_of_isClosed hclosed
    change (if service.isProvider then _ else _ : Resolving Value) w = _
    cases service.isProvider with
    | true => rfl
    | false =>
      cases service.asKey with
      | error f => rfl
      | ok identity =>
        cases hlookup : (w.provider p).registrations.lookup service with
        | error fault => rfl
        | ok found =>
          obtain ⟨r, implementation⟩ := found
          change within p service (getOrCreate p service r.lifetime (create t ask p r implementation)) w = _
          rw [hw.tree_eq_root hp]
          unfold within
          rw [hw.tree_eq_root hp]
          cases henter : w.root.path.enter service with
          | error f => simp
          | ok entered =>
            obtain ⟨rfl, -⟩ := ResolutionPath.enter_eq_ok henter
            have hentered : OfTree rs (w.setPath p (w.root.path ++ [service])) := hw.setPath p _
            -- the service leaves again at once if there is nothing to construct
            have hleave : (w.setPath p (w.root.path ++ [service])).setPath p
                ((w.setPath p (w.root.path ++ [service])).tree p).path.leave = w := by
              rw [hentered.tree_eq_root hp, root_setPath _ hw hp, ResolutionPath.leave, List.dropLast_concat,
                setPath_setPath, setPath_self hw hp]
            simp only [getOrCreate_eq, holding_setPath _ _ _ hw hp]
            cases w.holding p service r.lifetime with
            | cached v => simp [hleave]
            | refused f => simp [hleave]
            | create =>
              simp only [Option.map_map]
              rfl

def answer (t : ClassTable) (ask : Ask) (p : Nat) (service : TypeExpr) : Resolving Value := do
  let v ← supply t ask p service
  modify (World.deliver { provider := p, service, value := v })
  return v

lemma answer_eq_map : answer t ask p service w =
    (supply t ask p service w).map fun (r, u) => (r, u.answered p service r) := by
  cases hsupply : supply t ask p service w with
  | none =>
    change (supply t ask p service w).bind _ = none
    rw [hsupply]
    rfl
  | some o =>
    obtain ⟨r, u⟩ := o
    cases r with
    | ok v =>
      rw [answer, bind_of_ok hsupply]
      rfl
    | error e =>
      rw [answer, bind_of_error hsupply]
      rfl

lemma answer_eq (hw : OfTree rs w) :
    answer t ask p service w = match w.standing p service with
      | .settled r => some (r, w.answered p service r)
      | .pending r implementation =>
        (create t ask p r implementation (w.setPath p (w.root.path ++ [service]))).map fun (s, u) =>
          let answer := s.mapError (.ofCreation service)
          (answer, (u.conclude p service r.lifetime s).answered p service answer) := by
  rw [answer_eq_map, supply_eq hw]
  cases w.standing p service with
  | settled r => rfl
  | pending r implementation =>
    simp only [Option.map_map]
    rfl

lemma answer_of_settled {r : Except Failure Value} (hw : OfTree rs w) (h : w.standing p service = .settled r) :
    answer t ask p service w = some (r, w.answered p service r) := by
  rw [answer_eq hw, h]

lemma answer_of_pending {s : Except Failure Value} (hw : OfTree rs w)
    (h : w.standing p service = .pending r implementation)
    (hs : create t ask p r implementation (w.setPath p (w.root.path ++ [service])) = some (s, u)) :
    answer t ask p service w = some (s.mapError (.ofCreation service),
      (u.conclude p service r.lifetime s).answered p service (s.mapError (.ofCreation service))) := by
  rw [answer_eq hw, h]
  dsimp only
  rw [hs]
  rfl

lemma resolve_succ (t : ClassTable) (n p : Nat) (service : TypeExpr) :
    resolve t (n + 1) p service = answer t (resolve t n) p service :=
  rfl

/-! An answer that is given stays, however much deeper requests may nest. -/

section

variable {α β : Type} {x y : Resolving α} {f g : α → Resolving β}

def Precedes (x y : Resolving α) : Prop :=
  ∀ ⦃w o⦄, x w = some o → y w = some o

namespace Precedes

lemma refl (x : Resolving α) : Precedes x x :=
  fun _ _ h => h

lemma tooDeep (x : Resolving α) : Precedes tooDeep x :=
  fun _ _ h => by cases h

lemma bind (h : Precedes x y) (hf : ∀ a, Precedes (f a) (g a)) : Precedes (x >>= f) (y >>= g) := by
  intro w o hx
  obtain ⟨r, w'⟩ := o
  obtain ⟨a, w₁, ha, hr⟩ | ⟨e, he, rfl⟩ := bind_eq_some hx
  · rw [bind_of_ok (h ha)]
    exact hf a hr
  · exact bind_of_error (h he)

lemma throw_bind (e : Failure) (f g : α → Resolving β) : Precedes (throw e >>= f) (throw e >>= g) := by
  intro w o h
  have hthrow : (throw e : Resolving α) w = some (.error e, w) := rfl
  rw [bind_of_error hthrow] at h ⊢
  exact h

lemma result {γ : Type} (g : Except Failure α → Except Failure γ) (h : Precedes x y) :
    Precedes (fun w => (x w).map fun (r, w) => (g r, w) : Resolving γ) fun w => (y w).map fun (r, w) => (g r, w) := by
  intro w o hx
  obtain ⟨s, hs, heq⟩ := Option.map_eq_some_iff.1 hx
  exact Option.map_eq_some_iff.2 ⟨s, h hs, heq⟩

end Precedes

end

section

variable {ask ask' : Ask} {other other' : Value → List Value → Resolving Unit}

lemma precedes_runHook (hother : ∀ v arguments, Precedes (other v arguments) (other' v arguments)) (object : Nat)
    (path : List String) : Precedes (runHook t other object path) (runHook t other' object path) := by
  induction path generalizing object with
  | nil => exact .refl _
  | cons name rest ih =>
    rw [runHook, runHook]
    refine .bind (.refl _) fun w => ?_
    split
    · exact .refl _
    · split
      · split
        · exact .refl _
        · exact ih _
      · exact .refl _
      · split
        · exact hother _ _
        · exact .refl _
      · exact .refl _

lemma precedes_performOne (hask : ∀ p service, Precedes (ask p service) (ask' p service))
    (hother : ∀ v arguments, Precedes (other v arguments) (other' v arguments)) (object : Nat) (e : Effect) :
    Precedes (performOne t ask other object e) (performOne t ask' other' object e) := by
  cases e with
  | resolve target v service =>
    cases v with
    | provider p => exact .bind (hask p service) fun _ => .refl _
    | _ => exact .refl _
  | hook path => exact precedes_runHook hother object path
  | initializeOther v arguments => exact hother v _
  | initializeAgain arguments => exact hother _ _
  | construct c =>
    rw [performOne, performOne]
    unfold constructOther
    split
    · exact .refl _
    · exact .bind (.refl _) fun _ => hother _ _
  | _ => exact .refl _

lemma precedes_performAll (hask : ∀ p service, Precedes (ask p service) (ask' p service))
    (hother : ∀ v arguments, Precedes (other v arguments) (other' v arguments)) (object : Nat) (es : List Effect) :
    Precedes (performAll t ask other object es) (performAll t ask' other' object es) := by
  induction es with
  | nil => exact .refl _
  | cons e es ih => exact .bind (precedes_performOne hask hother object e) fun _ => ih

lemma precedes_initializeOther (hask : ∀ p service, Precedes (ask p service) (ask' p service)) (n : Nat) (v : Value)
    (arguments : List Value) :
    Precedes (initializeOther t ask n v arguments) (initializeOther t ask' n v arguments) := by
  induction n generalizing v arguments with
  | zero => exact .tooDeep _
  | succ n ih =>
    cases v with
    | object o =>
      rw [initializeOther, initializeOther]
      refine .bind (.refl _) fun w => ?_
      split
      · exact .refl _
      · split
        · exact .refl _
        · exact .bind (.refl _) fun _ => precedes_performAll hask ih _ _
    | data j => cases j <;> exact .refl _
    | list _ => exact .refl _
    | provider _ => exact .refl _

lemma precedes_instantiate (hask : ∀ p service, Precedes (ask p service) (ask' p service)) (type : TypeExpr)
    (named : List (String × Value)) : Precedes (instantiate t ask type named) (instantiate t ask' type named) := by
  unfold instantiate
  cases type
  case bare c | closed c _ =>
    dsimp only
    split
    · exact .refl _
    · refine .bind (.refl _) fun o => ?_
      split
      · exact .refl _
      · exact .bind (.refl _) fun _ =>
          .bind (precedes_performAll hask (precedes_initializeOther hask _) _ _) fun _ => .refl _
  all_goals exact .refl _

lemma precedes_parameterValues {ask ask' : TypeExpr → Resolving Value}
    (hask : ∀ service, Precedes (ask service) (ask' service)) (c : TypeExpr) (m : List (String × TypeExpr))
    (slots : List Slot) :
    Precedes (parameterValues ask c m slots) (parameterValues ask' c m slots) := by
  induction slots with
  | nil => exact .refl _
  | cons s slots ih =>
    rw [parameterValues, parameterValues]
    split
    · exact ih
    · split
      · refine .bind (.result _ ?_) fun v => .bind ih fun _ => .refl _
        unfold askFor
        split
        · exact .refl _
        · exact hask _
      · exact .refl _

lemma precedes_follow (hask : ∀ p service, Precedes (ask p service) (ask' p service)) (p : Nat) (recipe : Recipe) :
    Precedes (follow t ask p recipe) (follow t ask' p recipe) := by
  induction recipe with
  | done result => exact .refl _
  | count label next ih => exact .bind (.refl _) ih
  | make type next ih => exact .bind (.result _ (precedes_instantiate hask type [])) ih
  | resolve service next ih => exact .bind (.result _ (hask p service)) ih
  | resolveFrom q service next ih => exact .bind (.result _ (hask q service)) ih

lemma precedes_create (hask : ∀ p service, Precedes (ask p service) (ask' p service)) (p : Nat) (r : Registration)
    (implementation : TypeExpr) : Precedes (create t ask p r implementation) (create t ask' p r implementation) := by
  unfold create
  split
  · exact precedes_follow hask p _
  · rw [construct, construct]
    cases unreadable? (slotsOf t implementation) with
    | some message => exact .refl _
    | none => exact .bind (precedes_parameterValues (hask p) _ _ _) fun _ => precedes_instantiate hask _ _

lemma precedes_within {x y : Resolving Value} (h : Precedes x y) (p : Nat) (service : TypeExpr) :
    Precedes (within p service x) (within p service y) := by
  intro w o hx
  unfold within at hx ⊢
  cases henter : (w.tree p).path.enter service with
  | error f =>
    rw [henter] at hx
    exact hx
  | ok path =>
    rw [henter] at hx
    obtain ⟨s, hs, heq⟩ := Option.map_eq_some_iff.1 hx
    exact Option.map_eq_some_iff.2 ⟨s, h hs, heq⟩

lemma precedes_getOrCreate {x y : Resolving Value} (h : Precedes x y) (p : Nat) (service : TypeExpr) (l : Lifetime) :
    Precedes (getOrCreate p service l x) (getOrCreate p service l y) := by
  unfold getOrCreate
  refine .bind (.refl _) fun w => ?_
  cases w.holding p service l with
  | cached v => exact .refl _
  | refused f => exact .refl _
  | create => exact .bind (.result _ h) fun v => .refl _

lemma precedes_supply (hask : ∀ p service, Precedes (ask p service) (ask' p service)) (p : Nat) (service : TypeExpr) :
    Precedes (supply t ask p service) (supply t ask' p service) := by
  refine .bind (.refl _) fun w => ?_
  dsimp only
  split
  · exact .throw_bind _ _ _
  · split
    · exact .refl _
    · refine .bind (.refl _) fun _ => ?_
      split
      · exact .refl _
      · exact precedes_within (precedes_getOrCreate (precedes_create hask p _ _) p _ _) p service

lemma precedes_answer (hask : ∀ p service, Precedes (ask p service) (ask' p service)) (p : Nat) (service : TypeExpr) :
    Precedes (answer t ask p service) (answer t ask' p service) := by
  unfold answer
  exact .bind (precedes_supply hask p service) fun _ => .refl _

end

lemma resolve_mono {n m : Nat} (h : n ≤ m) (p : Nat) (service : TypeExpr) :
    Precedes (resolve t n p service) (resolve t m p service) := by
  induction n generalizing m p service with
  | zero => exact .tooDeep _
  | succ n ih =>
    obtain _ | m := m
    · cases h
    · exact precedes_answer (fun p service => ih (Nat.le_of_succ_le_succ h) p service) p service

end Resolving

end Wiring.Container
