import Mathlib.Data.List.Nodup
import Mathlib.Tactic.Common
import UseCase.Activation

/-!
# Activations that fit a card

An activation keeps positions, so it says something about a card only if the positions are those of
the card. `Activation.Fits` is that invariant: without an active verb nothing is active, an active
verb is one of the card, the active entities are entities of that verb, and none of them is active
twice.

The lemmas about adding, removing, replacing and leaving are the ways in which an activation
changes; each keeps the invariant under a condition that the operations of the machine establish
before they run a sequence.
-/

namespace UseCase.Activation

variable {c : Card} {a : Activation} {v : Verb} {kind other : Kind} {index : Nat}
variable {indices : List Nat}

/-! ## Reading an activation after a change -/

/-- The entities that were made the active ones of a kind are. -/
@[simp] lemma active_setActive_self : (a.setActive kind indices).active kind = indices := by
  cases kind <;> rfl

/-- Of two settings of the same kind the later one counts. -/
@[simp] lemma setActive_setActive {others : List Nat} :
    (a.setActive kind others).setActive kind indices = a.setActive kind indices := by
  cases kind <;> rfl

/-- Setting what is active anyway changes nothing. -/
@[simp] lemma setActive_active : a.setActive kind (a.active kind) = a := by
  cases kind <;> rfl

/-- Giving one kind its entities leaves the other kind alone. -/
lemma active_setActive_of_ne (differs : other ≠ kind) :
    (a.setActive kind indices).active other = a.active other := by
  cases kind <;> cases other <;> first | rfl | exact absurd rfl differs

/-- Which entities are active says nothing about the verb. -/
@[simp] lemma verb_setActive : (a.setActive kind indices).verb = a.verb := by
  cases kind <;> rfl

/-- Which entities are active says nothing about the defaults. -/
@[simp] lemma defaultsApplied_setActive :
    (a.setActive kind indices).defaultsApplied = a.defaultsApplied := by
  cases kind <;> rfl

/-- Setting the active entities of one kind leaves those of the other. -/
lemma active_setActive :
    (a.setActive kind indices).active other = if other = kind then indices else a.active other := by
  split
  · rename_i same
    subst same
    exact active_setActive_self
  · rename_i differs
    exact active_setActive_of_ne differs

/-- What is active after an entity was removed was active before, and is not that entity. -/
lemma mem_remove {i : Nat} :
    i ∈ (a.remove kind index).active kind ↔ i ∈ a.active kind ∧ i ≠ index := by
  rw [remove, active_setActive_self, List.mem_filter, bne_iff_ne]

/-- What is active after an entity was added was active before, or is that entity. -/
lemma mem_add {i : Nat} :
    i ∈ (a.add kind index).active kind ↔ i ∈ a.active kind ∨ i = index := by
  rw [add, active_setActive_self, List.mem_append, List.mem_singleton]

/-- An entity that is put into the place of another one has the same entities before and behind it
as that had. -/
lemma active_replace_of_split {new : Nat} {front back : List Nat} (first : index ∉ front)
    (split : a.active kind = front ++ index :: back) :
    (a.replace kind index new).active kind = front ++ new :: back := by
  rw [replace, active_setActive_self, split, List.replace_append_right first,
    List.replace_cons_self]

/-- An entity that is active once has one place, and is neither before nor behind it. -/
lemma exists_split (once : (a.active kind).Nodup) (member : index ∈ a.active kind) :
    ∃ front back, a.active kind = front ++ index :: back ∧ index ∉ front ++ back := by
  obtain ⟨front, back, split⟩ := List.append_of_mem member
  rw [split, List.nodup_middle, List.nodup_cons] at once
  exact ⟨front, back, split, once.1⟩

/-- What is active after an entity was put into the place of another was active before, and is not
the other, or it is that entity. -/
lemma mem_replace {i new : Nat} (once : (a.active kind).Nodup) (member : index ∈ a.active kind) :
    i ∈ (a.replace kind index new).active kind ↔
      (i ∈ a.active kind ∧ i ≠ index) ∨ i = new := by
  obtain ⟨front, back, split, apart⟩ := exists_split once member
  have around : i ∈ front ++ index :: back ∧ i ≠ index ↔ i ∈ front ++ back := by
    rw [List.perm_middle.mem_iff, List.mem_cons]
    constructor
    · rintro ⟨rfl | other, differs⟩
      · exact absurd rfl differs
      · exact other
    · intro other
      exact ⟨.inr other, fun same => apart (same ▸ other)⟩
  have first : index ∉ front := fun inFront => apart (List.mem_append_left back inFront)
  rw [active_replace_of_split first split, split, around, List.perm_middle.mem_iff, List.mem_cons,
    or_comm]

/-- The devices after an entity of any kind was removed were active before. -/
lemma mem_devices_of_remove {i : Nat} (member : i ∈ (a.remove kind index).devices) :
    i ∈ a.devices := by
  cases kind with
  | device => exact List.mem_of_mem_filter member
  | modifier => exact member

/-- Without a verb nothing is active. -/
@[simp] lemma active_leave : a.leave.active kind = [] := by
  cases kind <;> rfl

/-- Another verb alone leaves the active entities. -/
@[simp] lemma active_enter (w : Option Nat) :
    ({ a with verb := w } : Activation).active kind = a.active kind := by
  cases kind <;> rfl

/-- The defaults have no part in what is active. -/
@[simp] lemma active_defaults (applied : Bool) :
    ({ a with defaultsApplied := applied } : Activation).active kind = a.active kind := by
  cases kind <;> rfl

/-- The active verb is found from its position alone. -/
lemma activeVerb?_congr {a' : Activation} (same : a'.verb = a.verb) :
    a'.activeVerb? c = a.activeVerb? c := by
  rw [activeVerb?, activeVerb?, same]

/-- The active verb is one of the card. -/
lemma mem_of_activeVerb? (active : a.activeVerb? c = some v) : v ∈ c.verbs := by
  obtain ⟨index, -, there⟩ := Option.bind_eq_some_iff.mp active
  exact List.mem_of_getElem? there

/-- The active verb stays when entities become active or are left. -/
@[simp] lemma activeVerb?_setActive : (a.setActive kind indices).activeVerb? c = a.activeVerb? c :=
  activeVerb?_congr verb_setActive

/-! ## The invariant -/

/-- Every position of the activation is one of the card, and every entity is active at most once. -/
structure Fits (c : Card) (a : Activation) : Prop where
  idle : a.verb = none → ∀ kind, a.active kind = []
  known : ∀ i, a.verb = some i → ∃ v, c.verb? i = some v ∧
    ∀ kind, ∀ j ∈ a.active kind, j < (v.entities kind).length
  once : ∀ kind, (a.active kind).Nodup

/-- At the beginning nothing is active, which fits every card. -/
lemma Fits.fresh (c : Card) : Fits c .fresh where
  idle _ kind := by cases kind <;> rfl
  known i active := by cases active
  once kind := by cases kind <;> exact List.nodup_nil

/-- An active verb is a verb of the card. -/
lemma Fits.activeVerb? (fits : a.Fits c) {i : Nat} (active : a.verb = some i) :
    ∃ v, c.verb? i = some v ∧ a.activeVerb? c = some v := by
  obtain ⟨v, found, -⟩ := fits.known i active
  refine ⟨v, found, ?_⟩
  rw [Activation.activeVerb?, active, Option.bind_some, found]

/-- An active entity is an entity of the active verb. -/
lemma Fits.lt_length (fits : a.Fits c) (active : a.activeVerb? c = some v)
    (member : index ∈ a.active kind) : index < (v.entities kind).length := by
  obtain ⟨i, here, found⟩ := Option.bind_eq_some_iff.mp active
  obtain ⟨v', found', inside⟩ := fits.known i here
  rw [found] at found'
  cases found'
  exact inside kind index member

/-- Replacing the active entities of a kind keeps the invariant, if the new ones are entities of the
active verb and each is there once. -/
lemma Fits.setActive (fits : a.Fits c) (active : a.activeVerb? c = some v)
    (inside : ∀ j ∈ indices, j < (v.entities kind).length) (once : indices.Nodup) :
    (a.setActive kind indices).Fits c where
  idle none := by
    rw [verb_setActive] at none
    rw [Activation.activeVerb?, none] at active
    cases active
  known i here := by
    rw [verb_setActive] at here
    obtain ⟨v', found, others⟩ := fits.known i here
    have same : v' = v := by
      rw [Activation.activeVerb?, here, Option.bind_some, found] at active
      exact Option.some.inj active
    subst same
    refine ⟨v', found, fun k j member => ?_⟩
    rw [active_setActive] at member
    split at member
    · rename_i same
      subst same
      exact inside j member
    · exact others k j member
  once k := by
    rw [active_setActive]
    split
    · exact once
    · exact fits.once k

/-- Adding an entity that was not active keeps the invariant. -/
lemma Fits.add (fits : a.Fits c) (active : a.activeVerb? c = some v)
    (inside : index < (v.entities kind).length) (new : index ∉ a.active kind) :
    (a.add kind index).Fits c := by
  refine fits.setActive active (fun j member => ?_) ?_
  · rcases List.mem_append.mp member with old | last
    · exact fits.lt_length active old
    · rwa [List.mem_singleton.mp last]
  · refine List.Nodup.append (fits.once kind) (List.nodup_singleton index) ?_
    intro j old last
    rw [List.mem_singleton.mp last] at old
    exact new old

/-- Fewer active entities fit as well. -/
lemma Fits.remove (fits : a.Fits c) (active : a.activeVerb? c = some v) :
    (a.remove kind index).Fits c :=
  fits.setActive active
    (fun _ member => fits.lt_length active (List.mem_of_mem_filter member))
    ((fits.once kind).filter _)

/-- Putting an entity that was not active into the place of another keeps the invariant. -/
lemma Fits.replace {new : Nat} (fits : a.Fits c) (active : a.activeVerb? c = some v)
    (inside : new < (v.entities kind).length) (absent : new ∉ a.active kind) :
    (a.replace kind index new).Fits c := by
  by_cases on : index ∈ a.active kind
  · obtain ⟨front, back, split, apart⟩ := exists_split (fits.once kind) on
    have once : (front ++ index :: back).Nodup := split ▸ fits.once kind
    have first : index ∉ front := fun inFront => apart (List.mem_append_left back inFront)
    have others {j : Nat} (member : j ∈ front ++ back) : j ∈ a.active kind := by
      rw [split, List.perm_middle.mem_iff]
      exact List.mem_cons_of_mem index member
    rw [Activation.replace, split, List.replace_append_right first, List.replace_cons_self]
    refine fits.setActive active (fun j member => ?_) ?_
    · rcases List.mem_cons.mp (List.perm_middle.mem_iff.mp member) with rfl | other
      · exact inside
      · exact fits.lt_length active (others other)
    · rw [List.nodup_middle, List.nodup_cons] at once ⊢
      exact ⟨fun member => absent (others member), once.2⟩
  · rw [Activation.replace, List.replace_of_not_mem on, setActive_active]
    exact fits

/-- Where a verb was left nothing is active that would have to fit. -/
lemma Fits.leave (c : Card) (a : Activation) : a.leave.Fits c where
  idle _ _ := active_leave
  known i active := by cases active
  once kind := by
    rw [active_leave]
    exact List.nodup_nil

/-- Without an active verb there is nothing to leave. -/
lemma Fits.leave_of_idle (fits : a.Fits c) (idle : a.verb = none) : a.leave = a := by
  have devices : a.devices = [] := fits.idle idle .device
  have modifiers : a.modifiers = [] := fits.idle idle .modifier
  cases a
  subst idle devices modifiers
  rfl

/-- Entering a verb of the card while nothing is active keeps the invariant. -/
lemma Fits.enter {i : Nat} (found : c.verb? i = some v) (nothing : ∀ kind, a.active kind = []) :
    Fits c { a with verb := some i } where
  idle none := by cases none
  known j active := by
    cases active
    refine ⟨v, found, fun kind j member => ?_⟩
    rw [active_enter, nothing kind] at member
    cases member
  once kind := by
    rw [active_enter, nothing kind]
    exact List.nodup_nil

/-- Whether the defaults were run does not matter to the invariant. -/
lemma Fits.defaults (fits : a.Fits c) (applied : Bool) :
    Fits c { a with defaultsApplied := applied } where
  idle none kind := by
    rw [active_defaults]
    exact fits.idle none kind
  known i active := by
    obtain ⟨v, found, inside⟩ := fits.known i active
    refine ⟨v, found, fun kind => ?_⟩
    rw [active_defaults]
    exact inside kind
  once kind := by
    rw [active_defaults]
    exact fits.once kind

end UseCase.Activation
