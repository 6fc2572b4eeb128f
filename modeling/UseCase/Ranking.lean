import UseCase.Card

/-!
# Ranking by priority

Entities that are active together are ranked by descending priority; of equal priorities the one
that came first stays first. `rankBy` ranks any items, given their priorities, and `select?` finds
the entity that provides a value.
-/

namespace UseCase.Ranking

variable {α : Type}

/-- Puts an item before the first one that does not outrank it. -/
def place (priority : α → Nat) (x : α) : List α → List α
  | [] => [x]
  | y :: ys => if priority x < priority y then y :: place priority x ys else x :: y :: ys

/-- The items by descending priority, equal ones in their given order. -/
def rankBy (priority : α → Nat) : List α → List α
  | [] => []
  | x :: xs => place priority x (rankBy priority xs)

/-- The entities by descending priority. -/
def rank (entities : List Entity) : List Entity :=
  rankBy Entity.priority entities

/-- The highest-ranked entity that has a value of this name. -/
def select? (entities : List Entity) (name : String) : Option Entity :=
  (rank entities).find? fun e => e.values.contains name

end UseCase.Ranking
