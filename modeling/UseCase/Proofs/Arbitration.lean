import Mathlib.Data.List.FinRange
import UseCase.Proofs.Ranking

/-!
# Arbitration by priority

A ranking is determined by what `Ranks` says of it: no two lists are rankings of the same items. In
the same way `Foremost` determines the first ranked item that satisfies a condition, without a
ranking.

The main statement `ranked_selection` is that `rankBy` gives the ranking, of entities as of their
positions, and `select?` the foremost entity with a value. So entities without the value do not
matter, and those with it may stand in any order if no two of them have the same priority.
-/

namespace UseCase.Ranking

variable {α : Type} {priority : α → Nat}

/-! ## The only ranking -/

/-- The first of descending elements has the highest priority. -/
lemma le_head {x y : α} {ys : List α}
    (ordered : (y :: ys).Pairwise fun x y => priority y ≤ priority x) (member : x ∈ y :: ys) :
    priority x ≤ priority y := by
  rcases List.mem_cons.mp member with rfl | member
  · exact le_refl _
  · exact List.rel_of_pairwise_cons ordered member

/-- Lists that have the same elements of a priority have each of these in common. -/
lemma mem_of_filter_eq {xs ys : List α} {x : α}
    (same : (xs.filter fun y => priority y = priority x) =
      ys.filter fun y => priority y = priority x) (member : x ∈ xs) : x ∈ ys := by
  have found : x ∈ xs.filter fun y => priority y = priority x :=
    List.mem_filter.mpr ⟨member, decide_eq_true rfl⟩
  rw [same] at found
  exact List.mem_of_mem_filter found

/-- Lists in descending order are the same if they have the same items of each priority in the same
order. -/
lemma eq_of_descending {xs ys : List α}
    (first : xs.Pairwise fun x y => priority y ≤ priority x)
    (second : ys.Pairwise fun x y => priority y ≤ priority x)
    (same : ∀ p, (xs.filter fun x => priority x = p) = ys.filter fun x => priority x = p) :
    xs = ys := by
  induction xs generalizing ys with
  | nil =>
    cases ys with
    | nil => rfl
    | cons y ys => cases mem_of_filter_eq (same (priority y)).symm List.mem_cons_self
  | cons x xs ih =>
    cases ys with
    | nil => cases mem_of_filter_eq (same (priority x)) List.mem_cons_self
    | cons y ys =>
      -- Each list begins with an item that no item of the other one outranks.
      have level : priority x = priority y := by
        apply Nat.le_antisymm
        · exact le_head second (mem_of_filter_eq (same _) List.mem_cons_self)
        · exact le_head first (mem_of_filter_eq (same _).symm List.mem_cons_self)
      have heads := same (priority y)
      simp only [List.filter_cons, level, decide_true, if_true, List.cons_eq_cons] at heads
      obtain ⟨rfl, -⟩ := heads
      have rest (p : Nat) :
          (xs.filter fun x => priority x = p) = ys.filter fun x => priority x = p := by
        have whole := same p
        rw [List.filter_cons, List.filter_cons] at whole
        split at whole
        · exact (List.cons_eq_cons.mp whole).2
        · exact whole
      rw [ih (List.pairwise_cons.mp first).2 (List.pairwise_cons.mp second).2 rest]

/-- Nothing but the result of `rankBy` is a ranking. -/
lemma ranks_iff {items ranked : List α} :
    Ranks priority items ranked ↔ ranked = rankBy priority items := by
  constructor
  · intro ranks
    apply eq_of_descending ranks.descending (rankBy_descending items)
    intro p
    rw [ranks.stable, (rankBy_ranks priority items).stable]
  · rintro rfl
    exact rankBy_ranks priority items

/-- The entities at some positions are ranked as the positions are, by the priorities of the
entities there. -/
lemma rank_positions (entities : List Entity) (positions : List (Fin entities.length)) :
    (rankBy (fun i => (entities.get i).priority) positions).map entities.get =
      rank (positions.map entities.get) :=
  rankBy_map entities.get Entity.priority positions

/-! ## The item in front -/

/-- The item that is the first one of a ranking to satisfy a condition: it does, those before it
that do are of lower priority, and those behind it are of no higher one. -/
inductive Foremost (priority : α → Nat) (q : α → Bool) : List α → α → Prop
  | intro (front : List α) {back : List α} {x : α} : q x →
    (∀ y ∈ front, q y → priority y < priority x) →
    (∀ y ∈ back, q y → priority y ≤ priority x) → Foremost priority q (front ++ x :: back) x

variable {q : α → Bool} {x y : α} {items : List α}

/-- A foremost element is one of the elements, and it qualifies. -/
lemma Foremost.mem (foremost : Foremost priority q items x) : x ∈ items ∧ q x := by
  obtain ⟨front, has, -, -⟩ := foremost
  exact ⟨List.mem_append_right _ List.mem_cons_self, has⟩

/-- The foremost of a longer list is the first element, or the foremost of the others if that has a
higher priority. -/
lemma foremost_cons : Foremost priority q (y :: items) x ↔
    (y = x ∧ q x ∧ ∀ z ∈ items, q z → priority z ≤ priority x) ∨
      Foremost priority q items x ∧ (q y → priority y < priority x) := by
  constructor
  · generalize whole : y :: items = list
    rintro ⟨front, has, lower, level⟩
    cases front with
    | nil =>
      cases whole
      exact .inl ⟨rfl, has, level⟩
    | cons z front =>
      cases whole
      obtain ⟨first, rest⟩ := List.forall_mem_cons.mp lower
      exact .inr ⟨.intro front has rest level, first⟩
  · rintro (⟨rfl, has, level⟩ | ⟨⟨front, has, lower, level⟩, first⟩)
    · exact .intro [] has (List.forall_mem_nil _) level
    · exact .intro (y :: front) has (List.forall_mem_cons.mpr ⟨first, lower⟩) level

/-- There is at most one foremost element. -/
lemma Foremost.unique (first : Foremost priority q items x) (second : Foremost priority q items y) :
    x = y := by
  induction items with
  | nil => cases first.mem.1
  | cons z items ih =>
    rcases foremost_cons.mp first with ⟨rfl, has, bound⟩ | ⟨first, lower⟩ <;>
      rcases foremost_cons.mp second with ⟨rfl, has', bound'⟩ | ⟨second, lower'⟩
    · rfl
    · exact absurd (lower' has) (Nat.not_lt.mpr (bound y second.mem.1 second.mem.2))
    · exact absurd (lower has') (Nat.not_lt.mpr (bound' x first.mem.1 first.mem.2))
    · exact ih first second

/-- The first maximum among the qualified elements is the foremost one. -/
lemma foremost_argmax (best : (items.filter q).argmax priority = some x) :
    Foremost priority q items x := by
  induction items generalizing x with
  | nil => cases best
  | cons y items ih =>
    rw [foremost_cons]
    by_cases has : q y
    · rw [List.filter_cons_of_pos has, List.argmax_cons] at best
      cases further : (items.filter q).argmax priority with
      | none =>
        rw [further] at best
        cases best
        have alone := List.filter_eq_nil_iff.mp (List.argmax_eq_none.mp further)
        exact .inl ⟨rfl, has, fun z member h => absurd h (alone z member)⟩
      | some c =>
        rw [further] at best
        change (if priority y < priority c then some c else some y) = some x at best
        split at best
        · rename_i lower
          cases best
          exact .inr ⟨ih further, fun _ => lower⟩
        · rename_i level
          cases best
          refine .inl ⟨rfl, has, fun z member h => ?_⟩
          have bound := List.le_of_mem_argmax (List.mem_filter.mpr ⟨member, h⟩) further
          exact bound.trans (Nat.le_of_not_lt level)
    · rw [List.filter_cons_of_neg has] at best
      exact .inr ⟨ih best, fun h => absurd h has⟩

/-- The first ranked item that satisfies a condition is the foremost one. -/
lemma find?_rankBy_eq_some :
    (rankBy priority items).find? q = some x ↔ Foremost priority q items x := by
  rw [find?_rankBy]
  constructor
  · exact foremost_argmax
  · intro foremost
    cases best : (items.filter q).argmax priority with
    | none =>
      have alone := List.filter_eq_nil_iff.mp (List.argmax_eq_none.mp best)
      exact absurd foremost.mem.2 (alone x foremost.mem.1)
    | some c => rw [(foremost_argmax best).unique foremost]

/-! ## The entity that answers -/

variable {entities others : List Entity} {name : String}

/-- Some entity is selected exactly if one of them defines the value. -/
lemma select?_isSome :
    (select? entities name).isSome ↔ ∃ e ∈ entities, e.values.contains name := by
  rw [Option.isSome_iff_ne_none, ne_eq, select?_eq, List.argmax_eq_none, List.filter_eq_nil_iff]
  push Not
  rfl

/-- Only the entities with the value count. -/
lemma select?_congr (same : (entities.filter fun e => e.values.contains name) =
    others.filter fun e => e.values.contains name) :
    select? entities name = select? others name := by
  rw [select?_eq, select?_eq, same]

/-- The greatest of items with different priorities is found in any order. -/
lemma argmax_perm {xs ys : List α} (perm : xs.Perm ys) (distinct : (xs.map priority).Nodup) :
    xs.argmax priority = ys.argmax priority := by
  cases first : xs.argmax priority with
  | none =>
    obtain rfl := List.argmax_eq_none.mp first
    rw [List.nil_perm.mp perm]
    rfl
  | some x =>
    cases second : ys.argmax priority with
    | none =>
      obtain rfl := List.argmax_eq_none.mp second
      cases perm.mem_iff.mp (List.argmax_mem first)
    | some y =>
      have here : y ∈ xs := perm.mem_iff.mpr (List.argmax_mem second)
      have there : x ∈ ys := perm.mem_iff.mp (List.argmax_mem first)
      have level : priority x = priority y := by
        apply Nat.le_antisymm
        · exact List.le_of_mem_argmax there second
        · exact List.le_of_mem_argmax here first
      rw [List.inj_on_of_nodup_map distinct (List.argmax_mem first) here level]

/-- Where priorities do not repeat, the selection is the same for all orders of the entities. -/
lemma select?_perm (perm : entities.Perm others)
    (distinct : ((entities.filter fun e => e.values.contains name).map Entity.priority).Nodup) :
    select? entities name = select? others name := by
  rw [select?_eq, select?_eq, argmax_perm (perm.filter _) distinct]

/-- `rankBy` gives the one ranking of any items, and ranking entities is ranking their positions. An
entity is selected for a value just if some entity has it, and then the foremost that does. Entities
without the value can be left out or put in; and where those with it differ in priority, the order
of all of them is of no account. -/
theorem ranked_selection :
    (∀ (α : Type) (priority : α → Nat) (items ranked : List α),
      Ranks priority items ranked ↔ ranked = rankBy priority items) ∧
    (∀ (entities : List Entity) (positions : List (Fin entities.length)),
      (rankBy (fun i => (entities.get i).priority) positions).map entities.get =
        rank (positions.map entities.get)) ∧
    (∀ entities : List Entity,
      (rankBy (fun i => (entities.get i).priority) (List.finRange entities.length)).map
        entities.get = rank entities) ∧
    ∀ name : String,
      (∀ entities e, select? entities name = some e ↔
        Foremost Entity.priority (fun e => e.values.contains name) entities e) ∧
      (∀ entities, (select? entities name).isSome ↔ ∃ e ∈ entities, e.values.contains name) ∧
      (∀ entities others : List Entity,
        (entities.filter fun e => e.values.contains name) =
          (others.filter fun e => e.values.contains name) →
        select? entities name = select? others name) ∧
      ∀ entities others : List Entity, entities.Perm others →
        ((entities.filter fun e => e.values.contains name).map Entity.priority).Nodup →
        select? entities name = select? others name := by
  refine ⟨fun α priority items ranked => ranks_iff, rank_positions, fun entities => ?_,
    fun name => ⟨fun entities e => find?_rankBy_eq_some, fun entities => select?_isSome,
      fun entities others => select?_congr, fun entities others => select?_perm⟩⟩
  rw [rank_positions, ← List.ofFn_eq_map, List.ofFn_get]

/-- Of three outputs the greatest has no value; the two others can be asked in any order. -/
theorem selection_among_outputs :
    let output (name : String) (priority : Nat) : Entity :=
      { Entity.plain .device name with priority := priority }
    let low := { output "HDMI1" 10 with values := .ofList [("PlaybackPCM", "hw:0,3")] }
    let high := { output "HDMI2" 30 with values := .ofList [("PlaybackPCM", "hw:0,7")] }
    let silent := output "Headset" 100
    select? [low, silent, high] "PlaybackPCM" = some high ∧
      select? [low, high] "PlaybackPCM" = some high ∧
      select? [high, low, silent] "PlaybackPCM" = some high := by
  intro output low high silent
  obtain ⟨-, -, -, chosen⟩ := ranked_selection
  obtain ⟨foremost, -, left, moved⟩ := chosen "PlaybackPCM"
  have first : select? [low, silent, high] "PlaybackPCM" = some high := by
    rw [foremost]
    exact .intro [low, silent] (by decide) (by decide) (by decide)
  have without := left [low, silent, high] [low, high] (by decide)
  have swapped := moved [low, silent, high] [high, low, silent] (by decide) (by decide)
  exact ⟨first, without.symm.trans first, swapped.symm.trans first⟩

end UseCase.Ranking
