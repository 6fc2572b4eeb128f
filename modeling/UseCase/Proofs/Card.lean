import Mathlib.Data.List.Nodup
import Mathlib.Tactic.Common
import UseCase.Card.Validity

/-!
# Valid cards

`Card.Valid` says what a valid description is, without an order in which it is checked, and
`Card.validate_iff` that exactly these descriptions are accepted. Validity does not say that every
entity is listed under its own kind; `Card.Filed` does. The other lemmas relate names to
positions: the position that is found for a name is that of an item with this name, and in a valid
description it is the only one.
-/

namespace UseCase

variable {c : Card} {v : Verb} {kind : Kind} {name : String} {index : Nat}

/-! ## Names and positions -/

/-- The verb at the position that was found for a name has that name. -/
lemma Card.verb?_of_findVerb? (found : c.findVerb? name = some index) :
    ∃ v, c.verb? index = some v ∧ v.name = name := by
  obtain ⟨inside, named, -⟩ := List.findIdx?_eq_some_iff_getElem.mp found
  exact ⟨c.verbs[index], List.getElem?_eq_getElem inside, beq_iff_eq.mp named⟩

/-- The entity at the position that was found for a name has that name. -/
lemma Verb.entity?_of_find? (found : v.find? kind name = some index) :
    ∃ e, v.entity? kind index = some e ∧ e.name = name := by
  obtain ⟨inside, named, -⟩ := List.findIdx?_eq_some_iff_getElem.mp found
  exact ⟨(v.entities kind)[index], List.getElem?_eq_getElem inside, beq_iff_eq.mp named⟩

/-- Where all items go by different names, one name is found at one position. -/
lemma position_unique {α : Type} {nameOf : α → String} {items : List α}
    (distinct : (items.map nameOf).Nodup) {i j : Nat} {x y : α} (hx : items[i]? = some x)
    (hy : items[j]? = some y) (same : nameOf x = nameOf y) : i = j := by
  have inside : i < (items.map nameOf).length := by
    rw [List.length_map]
    exact (List.getElem?_eq_some_iff.mp hx).1
  refine (List.getElem?_inj inside distinct).mp ?_
  rw [List.getElem?_map, List.getElem?_map, hx, hy, Option.map_some, Option.map_some, same]

/-- Where all items go by different names, an item is found by its name. -/
lemma findIdx?_of_mem {α : Type} {nameOf : α → String} {items : List α}
    (distinct : (items.map nameOf).Nodup) {x : α} (member : x ∈ items) :
    ∃ i, items.findIdx? (fun y => nameOf y == nameOf x) = some i ∧ items[i]? = some x := by
  have some : (items.findIdx? fun y => nameOf y == nameOf x).isSome := by
    rw [List.findIdx?_isSome, List.any_eq_true]
    exact ⟨x, member, beq_self_eq_true _⟩
  obtain ⟨i, found⟩ := Option.isSome_iff_exists.mp some
  obtain ⟨inside, named, -⟩ := List.findIdx?_eq_some_iff_getElem.mp found
  obtain ⟨j, there⟩ := List.getElem?_of_mem member
  have same : i = j :=
    position_unique distinct (List.getElem?_eq_getElem inside) there (beq_iff_eq.mp named)
  exact ⟨i, found, same ▸ there⟩

/-- Where entities go by different names, an entity is found by its name. -/
lemma Verb.find?_of_mem {e : Entity} (distinct : ((v.entities kind).map Entity.name).Nodup)
    (member : e ∈ v.entities kind) :
    ∃ i, v.find? kind e.name = some i ∧ v.entity? kind i = some e :=
  findIdx?_of_mem distinct member

/-- Where verbs go by different names, a verb is found by its name. -/
lemma Card.findVerb?_of_mem (distinct : (c.verbs.map Verb.name).Nodup) (member : v ∈ c.verbs) :
    ∃ i, c.findVerb? v.name = some i ∧ c.verb? i = some v :=
  findIdx?_of_mem distinct member

/-! ## Valid descriptions -/

/-- An entity with a name and a priority in the allowed range. -/
structure Entity.Valid (e : Entity) : Prop where
  named : e.name ≠ ""
  ranked : Entity.minPriority ≤ e.priority ∧ e.priority ≤ Entity.maxPriority

/-- A verb with a name, whose entities of each kind are valid and go by different names. -/
structure Verb.Valid (v : Verb) : Prop where
  named : v.name ≠ ""
  entities : ∀ kind, ∀ e ∈ v.entities kind, e.Valid
  distinct : ∀ kind, ((v.entities kind).map Entity.name).Nodup

/-- A card with a name, whose verbs are valid and go by different names. -/
structure Card.Valid (c : Card) : Prop where
  named : c.info.name ≠ ""
  verbs : ∀ v ∈ c.verbs, v.Valid
  distinct : (c.verbs.map Verb.name).Nodup

/-- Every entity is listed under the kind that it says it has. -/
def Verb.Filed (v : Verb) : Prop :=
  (∀ e ∈ v.devices, e.kind = .device) ∧ ∀ e ∈ v.modifiers, e.kind = .modifier

/-- Whether every entity of a verb is listed under its own kind can be computed. -/
instance (v : Verb) : Decidable v.Filed :=
  inferInstanceAs (Decidable (_ ∧ _))

/-- An entity of a kind says that it is of this kind. -/
lemma Verb.Filed.kind_eq (filed : v.Filed) {e : Entity} (member : e ∈ v.entities kind) :
    e.kind = kind := by
  cases kind with
  | device => exact filed.1 e member
  | modifier => exact filed.2 e member

/-- Every entity of every verb is listed under the kind that it says it has. -/
def Card.Filed (c : Card) : Prop :=
  ∀ v ∈ c.verbs, v.Filed

/-- Whether every entity of a card is listed under its own kind can be computed. -/
instance (c : Card) : Decidable c.Filed :=
  inferInstanceAs (Decidable (∀ v ∈ c.verbs, v.Filed))

namespace Card

/-- Names of items are different from each other and from those that came before if the first one is
new and the others are different from each other, from it and from those before. -/
lemma distinct_cons {α : Type} {nameOf : α → String} {seen : List String} {x : α} {rest : List α} :
    ((x :: rest).map nameOf).Nodup ∧ (∀ y ∈ x :: rest, nameOf y ∉ seen) ↔
      nameOf x ∉ seen ∧ (rest.map nameOf).Nodup ∧ ∀ y ∈ rest, nameOf y ∉ nameOf x :: seen := by
  rw [List.map_cons, List.nodup_cons, List.forall_mem_cons]
  constructor
  · rintro ⟨⟨alone, distinct⟩, new, others⟩
    refine ⟨new, distinct, fun y member repeated => ?_⟩
    rcases List.mem_cons.mp repeated with same | before
    · exact alone (same ▸ List.mem_map_of_mem member)
    · exact others y member before
  · rintro ⟨new, distinct, others⟩
    refine ⟨⟨fun repeated => ?_, distinct⟩, new, fun y member before => ?_⟩
    · obtain ⟨y, member, same⟩ := List.mem_map.mp repeated
      exact others y member (List.mem_cons.mpr (.inl same))
    · exact others y member (List.mem_cons_of_mem _ before)

/-- One check after another accepts what both accept. -/
lemma check_bind_iff {x y : Except Defect Unit} :
    (x >>= fun _ => y) = .ok () ↔ x = .ok () ∧ y = .ok () := by
  cases x with
  | error defect => exact iff_of_false (fun accepted => by cases accepted) fun h => by cases h.1
  | ok u => exact (and_iff_right rfl).symm

/-- The check of entities accepts valid ones whose names differ from each other and from those that
came before. -/
lemma validateEntities_iff {verb : String} {seen : List String} {entities : List Entity} :
    validateEntities verb kind seen entities = .ok () ↔
      (∀ e ∈ entities, e.Valid) ∧ (entities.map Entity.name).Nodup ∧
        ∀ e ∈ entities, e.name ∉ seen := by
  induction entities generalizing seen with
  | nil => simp [validateEntities]
  | cons e rest ih =>
    rw [validateEntities, distinct_cons, List.forall_mem_cons]
    split_ifs with nameless repeated outside
    · refine iff_of_false (fun accepted => by cases accepted) fun ⟨⟨valid, _⟩, _⟩ => ?_
      exact valid.named (String.isEmpty_iff.mp nameless)
    · refine iff_of_false (fun accepted => by cases accepted) fun ⟨_, new, _⟩ => ?_
      exact new (List.contains_iff_mem.mp repeated)
    · refine iff_of_false (fun accepted => by cases accepted) fun ⟨⟨valid, _⟩, _⟩ => ?_
      have ranked := valid.ranked
      omega
    · have valid : e.Valid := ⟨fun empty => nameless (String.isEmpty_iff.mpr empty), by omega⟩
      have new : e.name ∉ seen := fun member => repeated (List.contains_iff_mem.mpr member)
      rw [ih, and_iff_right valid, and_iff_right new]

/-- The check of verbs accepts valid ones whose names differ from each other and from those that
came before. -/
lemma validateVerbs_iff {seen : List String} {verbs : List Verb} :
    validateVerbs seen verbs = .ok () ↔
      (∀ v ∈ verbs, v.Valid) ∧ (verbs.map Verb.name).Nodup ∧ ∀ v ∈ verbs, v.name ∉ seen := by
  induction verbs generalizing seen with
  | nil => simp [validateVerbs]
  | cons v rest ih =>
    rw [validateVerbs, distinct_cons, List.forall_mem_cons]
    split_ifs with nameless repeated
    · refine iff_of_false (fun accepted => by cases accepted) fun ⟨⟨valid, _⟩, _⟩ => ?_
      exact valid.named (String.isEmpty_iff.mp nameless)
    · refine iff_of_false (fun accepted => by cases accepted) fun ⟨_, new, _⟩ => ?_
      exact new (List.contains_iff_mem.mp repeated)
    · have named : v.name ≠ "" := fun empty => nameless (String.isEmpty_iff.mpr empty)
      have new : v.name ∉ seen := fun member => repeated (List.contains_iff_mem.mpr member)
      rw [check_bind_iff, check_bind_iff, validateEntities_iff, validateEntities_iff, ih,
        and_iff_right new]
      constructor
      · rintro ⟨⟨devices, apart, -⟩, ⟨modifiers, apart', -⟩, others, distinct⟩
        refine ⟨⟨⟨named, fun kind => ?_, fun kind => ?_⟩, others⟩, distinct⟩
        · cases kind with
          | device => exact devices
          | modifier => exact modifiers
        · cases kind with
          | device => exact apart
          | modifier => exact apart'
      · rintro ⟨⟨valid, others⟩, distinct⟩
        exact ⟨⟨valid.entities .device, valid.distinct .device, fun _ _ => List.not_mem_nil⟩,
          ⟨valid.entities .modifier, valid.distinct .modifier, fun _ _ => List.not_mem_nil⟩,
          others, distinct⟩

/-- Exactly the valid descriptions are accepted. -/
theorem validate_iff : c.validate = .ok () ↔ c.Valid := by
  have same : c.validate = .ok () ↔ c.check = .ok () := by
    rw [validate]
    cases c.check with
    | ok u => exact iff_of_true rfl rfl
    | error defect => exact iff_of_false (fun h => by cases h) fun h => by cases h
  rw [same, check]
  split_ifs with nameless
  · refine iff_of_false (fun accepted => by cases accepted) fun valid => ?_
    exact valid.named (String.isEmpty_iff.mp nameless)
  · rw [validateVerbs_iff]
    constructor
    · rintro ⟨verbs, distinct, -⟩
      exact ⟨fun empty => nameless (String.isEmpty_iff.mpr empty), verbs, distinct⟩
    · rintro ⟨-, verbs, distinct⟩
      exact ⟨verbs, distinct, fun _ _ => List.not_mem_nil⟩

/-- A description that is not accepted has a defect. -/
lemma configuration_of_validate {f : Fault} (failed : c.validate = .error f) :
    ∃ defect, f = .configuration defect := by
  rw [validate] at failed
  cases checked : c.check with
  | ok u =>
    rw [checked] at failed
    cases failed
  | error defect =>
    rw [checked] at failed
    exact ⟨defect, (Except.error.inj failed).symm⟩

end Card

end UseCase
