import Mathlib.Data.List.MinMax
import Mathlib.Data.List.Perm.Basic
import Mathlib.Tactic.Common
import UseCase.Ranking

/-!
# Ranking by priority

`Ranks` says what a ranking of some items is: the same items, by descending priority, and those of
equal priority in their given order. `rankBy_ranks` says that `rankBy` gives one.

Two consequences carry the results about activations and values. Ranking what is left of a list
leaves out the same items of its ranking (`rankBy_filter`), so a teardown that stopped halfway goes
on where it stopped. And the first ranked item that satisfies a condition is the greatest of those
that do, the earliest of equal ones (`find?_rankBy`).
-/

namespace UseCase.Ranking

variable {α : Type} {priority : α → Nat}

/-- A ranking of some items. -/
structure Ranks (priority : α → Nat) (items ranked : List α) : Prop where
  perm : ranked.Perm items
  descending : ranked.Pairwise fun x y => priority y ≤ priority x
  stable : ∀ p, (ranked.filter fun x => priority x = p) = items.filter fun x => priority x = p

/-- Putting an element in its place loses none and adds no other. -/
lemma place_perm (x : α) (ys : List α) : (place priority x ys).Perm (x :: ys) := by
  induction ys with
  | nil => exact .refl _
  | cons y ys ih =>
    unfold place
    split
    · exact (ih.cons y).trans (.swap x y ys)
    · exact .refl _

/-- A ranking has the elements that were ranked, and no others. -/
lemma rankBy_perm (items : List α) : (rankBy priority items).Perm items := by
  induction items with
  | nil => exact .refl _
  | cons x xs ih => exact (place_perm x _).trans (ih.cons x)

/-- An element is in a ranking if it was ranked. -/
@[simp] lemma mem_rankBy {x : α} {items : List α} : x ∈ rankBy priority items ↔ x ∈ items :=
  (rankBy_perm items).mem_iff

/-- Placing an item keeps the descending order. -/
lemma place_descending {x : α} {ys : List α}
    (ordered : ys.Pairwise fun x y => priority y ≤ priority x) :
    (place priority x ys).Pairwise fun x y => priority y ≤ priority x := by
  induction ys with
  | nil => exact List.pairwise_singleton _ _
  | cons y ys ih =>
    obtain ⟨below, rest⟩ := List.pairwise_cons.mp ordered
    unfold place
    split
    · rename_i lower
      refine List.pairwise_cons.mpr ⟨fun z hz => ?_, ih rest⟩
      rcases List.mem_cons.mp ((place_perm x ys).mem_iff.mp hz) with rfl | hz
      · exact Nat.le_of_lt lower
      · exact below z hz
    · rename_i notLower
      have higher : priority y ≤ priority x := Nat.le_of_not_lt notLower
      refine List.pairwise_cons.mpr ⟨fun z hz => ?_, ordered⟩
      rcases List.mem_cons.mp hz with rfl | hz
      · exact higher
      · exact (below z hz).trans higher

/-- The priorities in a ranking descend. -/
lemma rankBy_descending (items : List α) :
    (rankBy priority items).Pairwise fun x y => priority y ≤ priority x := by
  induction items with
  | nil => exact .nil
  | cons x xs ih => exact place_descending ih

/-- An item that no other outranks is placed in front. -/
lemma place_of_le {x : α} {ys : List α} (lead : ∀ y ∈ ys, priority y ≤ priority x) :
    place priority x ys = x :: ys := by
  cases ys with
  | nil => rfl
  | cons y ys => exact if_neg (Nat.not_lt.mpr (lead y List.mem_cons_self))

/-- Items in descending order are their own ranking. -/
lemma rankBy_of_descending {items : List α}
    (ordered : items.Pairwise fun x y => priority y ≤ priority x) :
    rankBy priority items = items := by
  induction items with
  | nil => rfl
  | cons x xs ih =>
    obtain ⟨lead, rest⟩ := List.pairwise_cons.mp ordered
    rw [rankBy, ih rest, place_of_le lead]

/-- Leaving items out after placing one is placing it, unless it is left out, among those that are
left. -/
lemma filter_place (q : α → Bool) (x : α) {ys : List α}
    (ordered : ys.Pairwise fun x y => priority y ≤ priority x) :
    (place priority x ys).filter q =
      if q x then place priority x (ys.filter q) else ys.filter q := by
  induction ys with
  | nil => simp [place, List.filter_cons]
  | cons y ys ih =>
    obtain ⟨below, rest⟩ := List.pairwise_cons.mp ordered
    by_cases lower : priority x < priority y
    · rw [place, if_pos lower, List.filter_cons, ih rest, List.filter_cons]
      by_cases hy : q y <;> by_cases hx : q x <;> simp [hx, hy, place, lower]
    · rw [place, if_neg lower, List.filter_cons]
      -- The order matters here: what is left of the rest cannot outrank the new item.
      have lead : ∀ z ∈ (y :: ys).filter q, priority z ≤ priority x := by
        intro z hz
        rcases List.mem_cons.mp (List.mem_of_mem_filter hz) with rfl | hz
        · exact Nat.le_of_not_lt lower
        · exact (below z hz).trans (Nat.le_of_not_lt lower)
      rw [place_of_le lead]

/-- The ranking of what is left is what is left of the ranking. -/
lemma rankBy_filter (q : α → Bool) (items : List α) :
    rankBy priority (items.filter q) = (rankBy priority items).filter q := by
  induction items with
  | nil => rfl
  | cons x xs ih =>
    rw [rankBy, filter_place q x (rankBy_descending xs), ← ih, List.filter_cons]
    split <;> rfl

/-- Placing an item among others is placing its image among theirs, if the priorities are those of
the images. -/
lemma place_map {β : Type} (f : α → β) (q : β → Nat) (x : α) (ys : List α) :
    (place (fun a => q (f a)) x ys).map f = place q (f x) (ys.map f) := by
  induction ys with
  | nil => rfl
  | cons y ys ih =>
    rw [List.map_cons, place, place]
    split
    · rw [List.map_cons, ih]
    · rfl

/-- Ranking items is ranking their images, if the priorities are those of the images. -/
lemma rankBy_map {β : Type} (f : α → β) (q : β → Nat) (items : List α) :
    (rankBy (fun a => q (f a)) items).map f = rankBy q (items.map f) := by
  induction items with
  | nil => rfl
  | cons x xs ih => rw [rankBy, place_map, ih, List.map_cons, rankBy]

/-- `rankBy` ranks. -/
theorem rankBy_ranks (priority : α → Nat) (items : List α) :
    Ranks priority items (rankBy priority items) where
  perm := rankBy_perm items
  descending := rankBy_descending items
  stable := by
    intro p
    rw [← rankBy_filter]
    apply rankBy_of_descending
    apply List.pairwise_of_forall_mem_list
    intro x hx y hy
    have hx := (List.mem_filter.mp hx).2
    have hy := (List.mem_filter.mp hy).2
    rw [of_decide_eq_true hx, of_decide_eq_true hy]

/-- A ranking of a ranking is the same. -/
@[simp] lemma rankBy_rankBy (items : List α) :
    rankBy priority (rankBy priority items) = rankBy priority items :=
  rankBy_of_descending (rankBy_descending items)

/-- What is in front after placing an item. -/
lemma head?_place (x : α) (ys : List α) :
    (place priority x ys).head? =
      match ys.head? with
      | none => some x
      | some y => if priority x < priority y then some y else some x := by
  cases ys with
  | nil => rfl
  | cons y ys =>
    unfold place
    split <;> simp_all

/-- The first ranked item is the greatest, the earliest of equal ones. -/
lemma head?_rankBy (items : List α) :
    (rankBy priority items).head? = items.argmax priority := by
  induction items with
  | nil => rfl
  | cons x xs ih =>
    rw [rankBy, head?_place, ih, List.argmax_cons]
    cases xs.argmax priority <;> rfl

/-- The first ranked item that satisfies a condition is the greatest that does. -/
theorem find?_rankBy (q : α → Bool) (items : List α) :
    (rankBy priority items).find? q = (items.filter q).argmax priority := by
  rw [← List.head?_filter, ← rankBy_filter, head?_rankBy]

/-- The entity that provides a value is the one of highest priority among those that have it. -/
theorem select?_eq (entities : List Entity) (name : String) :
    select? entities name =
      (entities.filter fun e => e.values.contains name).argmax Entity.priority :=
  find?_rankBy _ entities

end UseCase.Ranking
