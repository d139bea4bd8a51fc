/-!
The order in which a class and its bases are searched. It keeps the order of every base's own search and the order
in which the bases are listed, and has each class once; where no such order exists there is no class.
-/

namespace Wiring.Container.Lineage

variable {α : Type} [DecidableEq α]

def next? (orders : List (List α)) : Option α :=
  (orders.filterMap List.head?).find? fun a => orders.all fun o => a ∉ o.tail

def without (a : α) (o : List α) : List α :=
  if o.head? = some a then o.tail else o

def merge : (steps : Nat) → List (List α) → Option (List α)
  | 0, orders => if orders.all List.isEmpty then some [] else none
  | steps + 1, orders =>
    if orders.all List.isEmpty then some []
    else do
      let a ← next? orders
      return a :: (← merge steps (orders.map (without a)))

def ofBases (c : α) (bases : List α) (orders : List (List α)) : Option (List α) :=
  let all := orders ++ [bases]
  if bases.Nodup then (merge all.flatten.length all).map (c :: ·) else none

end Wiring.Container.Lineage
