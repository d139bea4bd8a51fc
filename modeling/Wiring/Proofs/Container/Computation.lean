import Mathlib.Tactic.Lemma
import Wiring.Container.Resolution

/-!
Properties of computations that hold of what is put together from parts if they hold of the parts. All that a
construction does on its own is to look at objects, to make and change objects and to record what ran; so such a
property holds of it if it holds of these and of the requests that it makes.
-/

namespace Wiring.Container

namespace World

variable {w u : World}

lemma classOf?_congr (h : w.objects = u.objects) (v : Value) : w.classOf? v = u.classOf? v := by
  unfold classOf?
  rw [h]

lemma typeName_congr (h : w.objects = u.objects) (v : Value) : w.typeName v = u.typeName v := by
  cases v with
  | object n => rw [typeName, typeName, classOf?_congr h]
  | _ => rfl

end World

namespace Resolving

section

variable {α β : Type} {x : Resolving α} {f : α → Resolving β} {w w' : World}

lemma bind_eq_some {r : Except Failure β} (h : (x >>= f) w = some (r, w')) :
    (∃ a w₁, x w = some (.ok a, w₁) ∧ f a w₁ = some (r, w')) ∨ ∃ e, x w = some (.error e, w') ∧ r = .error e := by
  change (x w).bind (fun p => ExceptT.bindCont f p.1 p.2) = some (r, w') at h
  obtain ⟨⟨s, w₁⟩, hx, hf⟩ := Option.bind_eq_some_iff.1 h
  cases s with
  | ok a => exact .inl ⟨a, w₁, hx, hf⟩
  | error e =>
    cases hf
    exact .inr ⟨e, hx, rfl⟩

lemma get_bind (f : World → Resolving α) (w : World) : (get >>= f) w = f w w :=
  rfl

lemma bind_of_ok {a : α} (h : x w = some (.ok a, w')) : (x >>= f) w = f a w' := by
  change (x w).bind (fun p => ExceptT.bindCont f p.1 p.2) = f a w'
  rw [h]
  rfl

lemma bind_of_error {e : Failure} (h : x w = some (.error e, w')) : (x >>= f) w = some (.error e, w') := by
  change (x w).bind (fun p => ExceptT.bindCont f p.1 p.2) = some (.error e, w')
  rw [h]
  rfl

end

structure Compositional (P : {α : Type} → Resolving α → Prop) : Prop where
  pure {α : Type} (a : α) : P (Pure.pure a : Resolving α)
  throw {α : Type} (e : Failure) : P (MonadExcept.throw e : Resolving α)
  tooDeep {α : Type} : P (Resolving.tooDeep : Resolving α)
  bind {α β : Type} {x : Resolving α} {f : α → Resolving β} : P x → (∀ a, P (f a)) → P (x >>= f)
  result {α β : Type} {x : Resolving α} (g : Except Failure α → Except Failure β) :
    P x → P (fun w => (x w).map fun (r, w) => (g r, w) : Resolving β)
  get {α : Type} {f : World → Resolving α} : (∀ w u : World, w.objects = u.objects → f w = f u) →
    (∀ w, P (f w)) → P (MonadState.get >>= f)
  note (text : String) : P (modify (World.note text) : Resolving Unit)
  setAttribute (object : Nat) (name : String) (v : Value) :
    P (modify (World.setAttribute object name v) : Resolving Unit)
  newObject (type : TypeExpr) (plain : Option Json) : P (Resolving.newObject type plain)
  nextCall : P Resolving.nextCall

namespace Compositional

variable {P : {α : Type} → Resolving α → Prop} {t : ClassTable} {ask : Ask}
  {other : Value → List Value → Resolving Unit}

lemma ofExcept (h : Compositional P) {α : Type} (y : Except Failure α) : P (Resolving.ofExcept y) := by
  cases y with
  | ok a => exact h.pure a
  | error e => exact h.throw e

lemma mapFailure (h : Compositional P) {α : Type} {x : Resolving α} (g : Failure → Failure) (hx : P x) :
    P (Resolving.mapFailure g x) :=
  h.result (·.mapError g) hx

lemma attempt (h : Compositional P) {α : Type} {x : Resolving α} (hx : P x) : P (Resolving.attempt x) :=
  h.result .ok hx

lemma guarded (h : Compositional P) {α : Type} {x : Resolving α} {b : Bool} {e : Failure} (hx : P x) :
    P (do
      if b then MonadExcept.throw e
      x) := by
  cases b with
  | false => exact hx
  | true => exact h.bind (h.throw e) fun _ => hx

lemma typeName (h : Compositional P) (v : Value) : P (Resolving.typeName v) :=
  h.get (fun _ _ hobjects => by rw [World.typeName_congr hobjects]) fun _ => h.pure _

lemma callMethod (h : Compositional P) (c : ClassHead) (name : String) (rest : List String) :
    P (Resolving.callMethod t c name rest) := by
  refine h.guarded ?_
  cases rest with
  | nil => exact h.note _
  | cons next _ => exact h.throw _

lemma refuseHook (h : Compositional P) (v : Value) (rest : List String) : P (Resolving.refuseHook v rest) := by
  cases rest with
  | nil => exact h.bind (h.typeName v) fun _ => h.throw _
  | cons next _ => exact h.bind (h.typeName v) fun _ => h.throw _

lemma callObject (h : Compositional P) (object : Nat) : P (Resolving.callObject t object) := by
  refine h.get (fun _ _ hobjects => by rw [World.classOf?_congr hobjects]) fun w => ?_
  split
  · exact h.refuseHook _ _
  · split
    · exact h.callMethod _ _ _
    · exact h.refuseHook _ _

lemma runHook (h : Compositional P) (hother : ∀ v arguments, P (other v arguments)) (object : Nat)
    (path : List String) : P (Resolving.runHook t other object path) := by
  induction path generalizing object with
  | nil => exact h.pure _
  | cons name rest ih =>
    rw [Resolving.runHook]
    refine h.get (fun _ _ hobjects => by rw [hobjects]) fun w => ?_
    split
    · exact h.throw _
    · split
      · split
        · exact h.callObject _
        · exact ih _
      · exact h.refuseHook _ _
      · split
        · exact hother _ _
        · exact h.callMethod _ _ _
      · exact h.throw _

lemma assign (h : Compositional P) (object : Nat) (target : String) (v : Value) :
    P (Resolving.assign t object target v) := by
  have hset := h.setAttribute object target v
  refine h.get (fun _ _ hobjects => by rw [World.classOf?_congr hobjects]) fun w => ?_
  split
  · exact h.guarded hset
  · exact hset

lemma allocate (h : Compositional P) (type : TypeExpr) (c : ClassHead) (names : List String) :
    P (Resolving.allocate t type c names) := by
  dsimp only [Resolving.allocate]
  split
  · split
    · exact h.newObject _ _
    · exact h.throw _
  · split
    · exact h.newObject _ _
    · exact h.throw _
  · split
    · exact h.throw _
    · split
      · exact h.newObject _ _
      · exact h.throw _

lemma constructOther (h : Compositional P) (hother : ∀ v arguments, P (other v arguments)) (c : ClassHead)
    (arguments : List Value) : P (Resolving.constructOther t other c arguments) := by
  unfold Resolving.constructOther
  split
  · exact h.throw _
  · exact h.bind (h.allocate _ _ _) fun o => hother _ _

lemma performOne (h : Compositional P) (hask : ∀ p service, P (ask p service))
    (hother : ∀ v arguments, P (other v arguments)) (object : Nat) (e : Effect) :
    P (Resolving.performOne t ask other object e) := by
  unfold Resolving.performOne
  split
  · exact h.note _
  · exact h.assign _ _ _
  · exact h.throw _
  · exact h.bind (hask _ _) fun v => h.assign _ _ v
  · exact h.bind (h.typeName _) fun _ => h.throw _
  · exact h.runHook hother _ _
  · exact hother _ _
  · exact hother _ _
  · exact h.bind (h.typeName _) fun _ => h.throw _
  · exact h.constructOther hother _ _
  · exact h.tooDeep

lemma performAll (h : Compositional P) (hask : ∀ p service, P (ask p service))
    (hother : ∀ v arguments, P (other v arguments)) (object : Nat) (es : List Effect) :
    P (Resolving.performAll t ask other object es) := by
  induction es with
  | nil => exact h.pure _
  | cons e es ih => exact h.bind (h.performOne hask hother object e) fun _ => ih

lemma initializeOther (h : Compositional P) (hask : ∀ p service, P (ask p service)) (n : Nat) (v : Value)
    (arguments : List Value) : P (Resolving.initializeOther t ask n v arguments) := by
  induction n generalizing v arguments with
  | zero => exact h.tooDeep
  | succ n ih =>
    cases v with
    | object o =>
      rw [Resolving.initializeOther]
      refine h.get (fun _ _ hobjects => by rw [World.classOf?_congr hobjects]) fun w => ?_
      split
      · exact h.pure _
      · split
        · split
          · exact h.pure _
          · exact h.throw _
        · exact h.bind (h.ofExcept _) fun _ => h.performAll hask ih _ _
    | data j =>
      cases j with
      | array _ => exact h.bind (h.typeName _) fun _ => h.throw _
      | object _ => exact h.bind (h.typeName _) fun _ => h.throw _
      | _ => exact h.pure _
    | list _ => exact h.bind (h.typeName _) fun _ => h.throw _
    | provider _ => exact h.bind (h.typeName _) fun _ => h.throw _

lemma parameterValues (h : Compositional P) {ask : TypeExpr → Resolving Value} (hask : ∀ service, P (ask service))
    (c : TypeExpr) (m : List (String × TypeExpr)) (slots : List Slot) :
    P (Resolving.parameterValues ask c m slots) := by
  induction slots with
  | nil => exact h.pure _
  | cons s slots ih =>
    rw [Resolving.parameterValues]
    split
    · exact ih
    · split
      · refine h.bind (h.mapFailure _ ?_) fun v => h.bind ih fun _ => h.pure _
        unfold askFor
        split
        · exact h.throw _
        · exact hask _
      · exact h.throw _

lemma instantiate (h : Compositional P) (hask : ∀ p service, P (ask p service)) (type : TypeExpr)
    (named : List (String × Value)) : P (Resolving.instantiate t ask type named) := by
  unfold Resolving.instantiate
  cases type
  case bare c | closed c _ =>
    dsimp only
    split
    · exact h.pure _
    · refine h.bind (h.allocate _ _ _) fun o => ?_
      split
      · exact h.pure _
      · exact h.bind (h.ofExcept _) fun _ =>
          h.bind (h.performAll hask (h.initializeOther hask _) _ _) fun _ => h.pure _
  all_goals exact h.throw _

lemma construct (h : Compositional P) (hask : ∀ p service, P (ask p service)) (p : Nat) (type : TypeExpr) :
    P (Resolving.construct t ask p type) := by
  rw [Resolving.construct]
  cases unreadable? (slotsOf t type) with
  | some message => exact h.throw _
  | none => exact h.bind (h.parameterValues (hask p) _ _ _) fun named => h.instantiate hask type named

lemma follow (h : Compositional P) (hask : ∀ p service, P (ask p service)) (p : Nat) (recipe : Recipe) :
    P (Resolving.follow t ask p recipe) := by
  induction recipe with
  | done result => exact h.ofExcept _
  | count label next ih => exact h.bind h.nextCall ih
  | make type next ih => exact h.bind (h.attempt (h.instantiate hask type [])) ih
  | resolve service next ih => exact h.bind (h.attempt (hask p service)) ih
  | resolveFrom q service next ih => exact h.bind (h.attempt (hask q service)) ih

lemma create (h : Compositional P) (hask : ∀ p service, P (ask p service)) (p : Nat) (r : Registration)
    (type : TypeExpr) : P (Resolving.create t ask p r type) := by
  unfold Resolving.create
  split
  · exact h.follow hask p _
  · exact h.construct hask p type

end Compositional

end Resolving

/-! A new object has its type and nothing else. -/

namespace Resolving

variable {t : ClassTable} {type : TypeExpr}

def Allots (type : TypeExpr) (x : Resolving Nat) : Prop :=
  ∀ ⦃w r w'⦄, x w = some (r, w') → (∃ e, r = .error e ∧ w' = w) ∨
    r = .ok w.objects.length ∧ ∃ plain, w' = { w with objects := w.objects ++ [{ type, plain }] }

lemma Allots.throw (e : Failure) : Allots type (throw e) :=
  fun _ _ _ h => by cases h; exact .inl ⟨_, rfl, rfl⟩

lemma Allots.newObject (plain : Option Json) : Allots type (newObject type plain) :=
  fun _ _ _ h => by cases h; exact .inr ⟨rfl, _, rfl⟩

lemma allots_allocate (type : TypeExpr) (c : ClassHead) (names : List String) :
    Allots type (allocate t type c names) := by
  dsimp only [allocate]
  split
  · split
    · exact .newObject _
    · exact .throw _
  · split
    · exact .newObject _
    · exact .throw _
  · split
    · exact .throw _
    · split
      · exact .newObject _
      · exact .throw _

/-- A new object of a class before its initializer runs. -/
structure Fresh (t : ClassTable) (type : TypeExpr) (c : ClassHead) (names : List String) (w : World) (object : Nat)
    (w' : World) : Prop where
  ofClass : type = .bare c ∨ ∃ as, type = .closed c as
  uncommon : Assoc.find? c commonValues = none
  allocated : allocate t type c names w = some (.ok object, w')

namespace Fresh

variable {c : ClassHead} {names : List String} {object : Nat} {w w' : World}

lemma head? (h : Fresh t type c names w object w') : type.head? = some c := by
  obtain rfl | ⟨as, rfl⟩ := h.ofClass <;> rfl

lemma getElem? (h : Fresh t type c names w object w') : ∃ plain, w'.objects[object]? = some { type, plain } := by
  obtain ⟨e, he, -⟩ | ⟨ho, plain, rfl⟩ := allots_allocate _ _ _ h.allocated
  · cases he
  · cases ho
    exact ⟨plain, by simp⟩

end Fresh

end Resolving

/-! Attributes that an object is given one after the other. -/

lemma ClassTable.hasProperty_eq_false {t : ClassTable} (h : ∀ k ∈ t, k.properties = []) (c : ClassHead)
    (name : String) :
    t.hasProperty c name = false := by
  rw [hasProperty]
  cases hholder : t.holder? c name with
  | none => rfl
  | some k =>
    obtain ⟨d, -, hd⟩ := List.mem_filterMap.1 (List.mem_of_find?_eq_some hholder)
    rw [Option.any_some, h k (List.mem_of_find?_eq_some hd)]
    rfl

namespace Effect

def setAll (pairs : List (String × Value)) : List Effect :=
  pairs.map fun p => .set p.1 p.2

@[simp] lemma setAll_append (ps qs : List (String × Value)) : setAll (ps ++ qs) = setAll ps ++ setAll qs :=
  List.map_append

end Effect

namespace World

variable {w : World} {object : Nat} {pairs : List (String × Value)}

def setAttributes (object : Nat) (pairs : List (String × Value)) (w : World) : World :=
  pairs.foldl (fun w p => w.setAttribute object p.1 p.2) w

lemma classOf?_setAttribute (w : World) (object : Nat) (name : String) (v u : Value) :
    (w.setAttribute object name v).classOf? u = w.classOf? u := by
  cases u with
  | object n =>
    simp only [classOf?, setAttribute, List.getElem?_modify]
    cases w.objects[n]? with
    | none => rfl
    | some o => by_cases h : object = n <;> simp [h]
  | _ => rfl

lemma getElem?_setAttributes (w : World) (object : Nat) (pairs : List (String × Value)) :
    (w.setAttributes object pairs).objects[object]? = w.objects[object]?.map fun o =>
      { o with attributes := pairs.foldl (fun m p => Assoc.put p.1 p.2 m) o.attributes } := by
  induction pairs generalizing w with
  | nil => simp [setAttributes]
  | cons p ps ih =>
    rw [setAttributes, List.foldl_cons, ← setAttributes, ih]
    cases h : w.objects[object]? <;> simp [setAttribute, h]

end World

namespace Resolving

variable {t : ClassTable} {ask : Ask} {other : Value → List Value → Resolving Unit} {object : Nat} {c d : ClassHead}
  {i : Initializer} {type : TypeExpr} {target : String} {named values pairs : List (String × Value)} {w w' : World}

lemma assign_eq (hsettable : ∀ c, w.classOf? (.object object) = some c → t.hasProperty c target = false) (v : Value) :
    assign t object target v w = some (.ok (), w.setAttribute object target v) := by
  rw [assign, get_bind]
  cases hc : w.classOf? (.object object) with
  | none => rfl
  | some c =>
    simp only [hsettable c hc]
    rfl

lemma performAll_setAll (es : List Effect)
    (hsettable : ∀ c, w.classOf? (.object object) = some c → ∀ p ∈ pairs, t.hasProperty c p.1 = false) :
    performAll t ask other object (Effect.setAll pairs ++ es) w =
      performAll t ask other object es (w.setAttributes object pairs) := by
  induction pairs generalizing w with
  | nil => rfl
  | cons p ps ih =>
    have hfirst : assign t object p.1 p.2 w = some (.ok (), w.setAttribute object p.1 p.2) :=
      assign_eq (fun c hc => hsettable c hc p List.mem_cons_self) p.2
    rw [Effect.setAll, List.map_cons, List.cons_append, performAll, performOne, bind_of_ok hfirst]
    refine ih fun c hc q hq => hsettable c ?_ q (List.mem_cons_of_mem p hq)
    rwa [World.classOf?_setAttribute] at hc

lemma runHook_of_hasHook {o : Object} {hook : String} (hobject : w.objects[object]? = some o)
    (htype : o.type.head? = some c) (hattribute : Assoc.find? hook o.attributes = none) (hname : hook ≠ "__init__")
    (hhook : t.hasHook c hook) : runHook t other object [hook] w = some (.ok (), w.note (c.text ++ "." ++ hook)) := by
  rw [runHook, get_bind, hobject]
  simp only [hattribute, htype, hname, false_and, if_false]
  rw [callMethod, hhook]
  rfl

lemma Fresh.instantiate_eq (h : Fresh t type c (named.map Prod.fst) w object w')
    (hinitializer : t.initializer? c = some (d, i)) (hbind : i.bind [] named = .ok values) :
    instantiate t ask type named w =
      (performAll t ask (initializeOther t ask otherDepth) object (Effect.ofClass t c d i values) >>=
        fun _ => pure (.object object)) w' := by
  obtain ⟨rfl | ⟨as, rfl⟩, huncommon, hallocated⟩ := h
  all_goals
    unfold instantiate
    simp only [huncommon, hinitializer]
    rw [bind_of_ok hallocated, hbind]
    rfl

end Resolving

end Wiring.Container
