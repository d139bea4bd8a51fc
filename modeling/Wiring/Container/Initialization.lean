import Wiring.Container.Arguments

/-!
What an initializer does to the object that it is called on, as a list of effects. Which effects there are depends
on the classes and on the arguments only, so that a chain of initializers is one list, the outer one's own
statements first and the hook last.
-/

namespace Wiring.Container

inductive Effect where
  | note (c : ClassHead)
  | set (target : String) (value : Value)
  | fail (failure : Failure)
  | resolve (target : String) (provider : Value) (service : TypeExpr)
  | hook (path : List String)
  | initializeOther (value : Value) (arguments : List Value)
  | initializeAgain (arguments : List Value)
  | call (value : Value)
  | construct (c : ClassHead)
  | endless

namespace Effect

def unknownName (name : String) : Effect :=
  .fail (.other .name ("name '" ++ name ++ "' is not defined"))

def excessArguments : Effect :=
  .fail (.other .type "object.__init__() takes exactly one argument (the instance to initialize)")

def withSlot (values : List (String × Value)) (name : String) (f : Value → List Effect) : List Effect :=
  match Assoc.find? name values with
  | some v => f v
  | none => [unknownName name]

def sharesInitializer (t : ClassTable) (c d : ClassHead) : Bool :=
  (t.initializer? c).map Prod.fst = (t.initializer? d).map Prod.fst

def guardedHook (t : ClassTable) (self : ClassHead) (values : List (String × Value)) (asked owner : Binding)
    (path : List String) : List Effect :=
  match asked, owner with
  | .slot name, _ => withSlot values name fun v => [.call v]
  | .variable, _ => [.fail (.notCallable "TypeVar")]
  | .self, _ => []
  | .unbound unknown, _ => [unknownName unknown]
  | .class a, .class c =>
    if a = .builtin "type" then if sharesInitializer t self c then [.hook path] else [] else [.construct a]
  | .class a, .unbound unknown => if a = .builtin "type" then [unknownName unknown] else [.construct a]
  | .class a, _ => if a = .builtin "type" then [] else [.construct a]

def ofStep (t : ClassTable) (self owner : ClassHead) (values : List (String × Value))
    (callBase : ClassHead → Initializer → List (String × Value) → List Effect) : Step → List Effect
  | .note => [.note owner]
  | .assign target slot => withSlot values slot fun v => [.set target v]
  | .store target value => [.set target (.data value)]
  | .fail f => [.fail f]
  | .resolve target provider service => withSlot values provider fun v => [.resolve target v service]
  | .runHook path => [.hook path]
  | .runHookUnlessDerived asked owner path => guardedHook t self values asked owner path
  | .callBase (.unbound name) _ => [unknownName name]
  | .callBase .variable [] => []
  | .callBase .variable _ => [.fail (.other .type "A single constraint is not allowed")]
  | .callBase .self forwarded => [.initializeAgain (forwarded.filterMap fun n => Assoc.find? n values)]
  | .callBase (.slot name) forwarded =>
    withSlot values name fun v => [.initializeOther v (forwarded.filterMap fun n => Assoc.find? n values)]
  | .callBase (.class c) forwarded =>
    match t.initializer? c with
    | none => if forwarded = [] then [] else [excessArguments]
    | some (d, i) =>
      match i.bind (forwarded.filterMap fun n => Assoc.find? n values) [] with
      | .error f => [.fail f]
      | .ok values => callBase d i values

/-- The effects of a chain of initializers that calls no deeper than the given depth. -/
def ofInitializer (t : ClassTable) (self : ClassHead) :
    Nat → ClassHead → Initializer → List (String × Value) → List Effect
  | 0, _, _, _ => [.endless]
  | n + 1, owner, i, values => i.body.flatMap (ofStep t self owner values (ofInitializer t self n))

/-- A chain that does not come back to a class it has been at calls no deeper than there are classes. -/
def ofClass (t : ClassTable) (self owner : ClassHead) (i : Initializer) (values : List (String × Value)) :
    List Effect :=
  ofInitializer t self (t.length + 1) owner i values

end Effect

end Wiring.Container
