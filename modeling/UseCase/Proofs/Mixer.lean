import Mathlib.Data.List.Induction
import Mathlib.Tactic.Common
import UseCase.Mixer
import UseCase.Proofs.Outcome
import UseCase.Proofs.Register

/-!
# The values of a mixer

A mixer takes values in two ways: a control is written, or a snapshot is written back. Both leave
the controls alone that the mixer does not accept (`Mixer.Keeps`), and so does every request to a
desk.
-/

namespace UseCase

namespace Mixer

variable {m m' m'' : Mixer} {device control : String}

/-- The last value for a control among some values. -/
def last? (values : List ControlValue) (device control : String) : Option String :=
  (values.reverse.find? fun v => v.device == device && v.control == control).map ControlValue.value

/-- The last of some values and one more is that one, if it is for the control. -/
lemma last?_concat (values : List ControlValue) (v : ControlValue) :
    last? (values ++ [v]) device control =
      if v.device = device ∧ v.control = control then some v.value
      else last? values device control := by
  rw [last?, List.reverse_concat, List.find?_cons, last?]
  split_ifs with same
  · simp [same]
  · have other : (v.device == device && v.control == control) = false := by simpa using same
    rw [other]

/-- A control that was assigned a value has it, and the others have theirs. -/
lemma value?_assign (m : Mixer) (v : ControlValue) :
    (m.assign v).value? device control =
      if v.device = device ∧ v.control = control then some v.value
      else m.value? device control := by
  rw [value?, assign, Register.get?_insert]
  by_cases here : v.device = device
  · subst here
    rw [if_pos rfl, Option.bind_some, Register.get?_insert]
    by_cases same : v.control = control
    · rw [if_pos same, if_pos ⟨rfl, same⟩]
    · rw [if_neg same, if_neg fun both => same both.2, value?]
      cases m.values.get? v.device <;> rfl
  · rw [if_neg here, if_neg fun both => here both.1, value?]

/-- What the snapshot of a mixer holds are its values. -/
lemma mem_allValues {v : ControlValue} :
    v ∈ m.allValues ↔ m.value? v.device v.control = some v.value := by
  rw [value?, Option.bind_eq_some_iff, allValues, List.mem_flatMap]
  constructor
  · rintro ⟨⟨device, controls⟩, outer, inner⟩
    obtain ⟨⟨control, value⟩, member, rfl⟩ := List.mem_map.mp inner
    exact ⟨controls, Register.mem_entries.mp outer, Register.mem_entries.mp member⟩
  · rintro ⟨controls, outer, inner⟩
    refine ⟨(v.device, controls), Register.mem_entries.mpr outer, ?_⟩
    exact List.mem_map.mpr ⟨(v.control, v.value), Register.mem_entries.mpr inner, rfl⟩

/-- The last value for a control among all values is the one that it has. -/
lemma last?_allValues (m : Mixer) (device control : String) :
    last? m.allValues device control = m.value? device control := by
  rw [last?]
  cases found : m.allValues.reverse.find? fun v => v.device == device && v.control == control with
  | some v =>
    have member := mem_allValues.mp (List.mem_reverse.mp (List.mem_of_find?_eq_some found))
    have same := List.find?_some found
    rw [Bool.and_eq_true, beq_iff_eq, beq_iff_eq] at same
    rw [← same.1, ← same.2, member, Option.map_some]
  | none =>
    cases held : m.value? device control with
    | none => rfl
    | some value =>
      have member : ⟨device, control, value⟩ ∈ m.allValues := mem_allValues.mpr held
      have other := List.find?_eq_none.mp found _ (List.mem_reverse.mpr member)
      simp at other

/-- A change of a mixer that leaves alone the controls that it does not accept. -/
structure Keeps (m m' : Mixer) : Prop where
  identifiers : m'.identifiers = m.identifiers
  stateFile : m'.stateFile = m.stateFile
  value? {device control : String} : m.accepts control = false →
    m'.value? device control = m.value? device control

/-- Such a change has no influence on what is accepted. -/
lemma Keeps.accepts (keeps : m.Keeps m') : m'.accepts = m.accepts := by
  unfold Mixer.accepts
  rw [keeps.identifiers]

/-- No change is such a change. -/
lemma Keeps.refl (m : Mixer) : m.Keeps m := ⟨rfl, rfl, fun _ => rfl⟩

/-- Two such changes are one. -/
lemma Keeps.trans (first : m.Keeps m') (next : m'.Keeps m'') : m.Keeps m'' where
  identifiers := next.identifiers.trans first.identifiers
  stateFile := next.stateFile.trans first.stateFile
  value? refused := (next.value? (by rw [first.accepts, refused])).trans (first.value? refused)

/-- The snapshot in memory has no part in the values. -/
lemma keeps_cached (m : Mixer) (s : Option Snapshot) : m.Keeps { m with cached := s } :=
  ⟨rfl, rfl, fun _ => rfl⟩

/-- Assigning to a control that is accepted leaves those that are not. -/
lemma keeps_assign {v : ControlValue} (accepted : m.accepts v.control) : m.Keeps (m.assign v) where
  identifiers := rfl
  stateFile := rfl
  value? refused := by
    rw [value?_assign, if_neg]
    rintro ⟨-, rfl⟩
    rw [accepted] at refused
    cases refused

/-- An assignment leaves the controls alone that are not accepted, itself included. -/
lemma keeps_assignAccepted (m : Mixer) (v : ControlValue) : m.Keeps (m.assignAccepted v) := by
  rw [assignAccepted]
  split_ifs with accepted
  · exact keeps_assign accepted
  · exact .refl m

/-- The mixer after values were written back. -/
def writeBack (m : Mixer) (values : List ControlValue) : Mixer :=
  values.foldl assignAccepted m

/-- Values are written back one after another. -/
lemma writeBack_concat (m : Mixer) (values : List ControlValue) (v : ControlValue) :
    m.writeBack (values ++ [v]) = (m.writeBack values).assignAccepted v := by
  rw [writeBack, List.foldl_concat]
  rfl

/-- Writing back values leaves the controls alone that are not accepted. -/
lemma keeps_writeBack (m : Mixer) (values : List ControlValue) : m.Keeps (m.writeBack values) := by
  induction values using List.reverseRecOn with
  | nil => exact .refl m
  | append_singleton values v ih =>
    rw [writeBack_concat]
    exact ih.trans (keeps_assignAccepted _ v)

/-- Writing values back changes nothing but values. -/
lemma exists_writeBack (m : Mixer) (values : List ControlValue) :
    ∃ held, m.writeBack values = { m with values := held } := by
  induction values using List.reverseRecOn with
  | nil => exact ⟨m.values, rfl⟩
  | append_singleton values v ih =>
    obtain ⟨held, same⟩ := ih
    rw [writeBack_concat, assignAccepted, same]
    split_ifs <;> exact ⟨_, rfl⟩

/-- An accepted control gets the last of the values that are written back. -/
theorem value?_writeBack (m : Mixer) (values : List ControlValue) (device control : String) :
    (m.writeBack values).value? device control =
      if m.accepts control then (last? values device control).or (m.value? device control)
      else m.value? device control := by
  split_ifs with accepted
  · induction values using List.reverseRecOn with
    | nil => rfl
    | append_singleton values v ih =>
      rw [writeBack_concat, last?_concat, assignAccepted, (m.keeps_writeBack values).accepts]
      by_cases same : v.device = device ∧ v.control = control
      · obtain ⟨rfl, rfl⟩ := same
        rw [if_pos accepted, value?_assign, if_pos ⟨rfl, rfl⟩, if_pos ⟨rfl, rfl⟩, Option.some_or]
      · rw [if_neg same, ← ih]
        split_ifs
        · rw [value?_assign, if_neg same]
        · rfl
  · exact (m.keeps_writeBack values).value? (Bool.not_eq_true _ ▸ accepted)

section

variable {identifiers identifiers' : List String} {pauses executes pauses' executes' : Bool}
variable {stateFile stateFile' : Option String}

/-- A new mixer has the identifiers that it was given. -/
lemma mem_create :
    (create identifiers pauses executes stateFile).identifiers.contains control ↔
      control ∈ identifiers := by
  rw [create, Register.contains_ofList, List.map_map]
  simp [Function.comp_def]

/-- A mixer accepts the controls that it was given, or all if it was given none. -/
lemma accepts_create :
    (create identifiers pauses executes stateFile).accepts control ↔
      (∀ i, i ∉ identifiers) ∨ control ∈ identifiers := by
  rw [accepts, Bool.or_eq_true, Register.isEmpty_entries, mem_create]
  exact or_congr_left (forall_congr' fun i => not_congr mem_create)

/-- The order in which identifiers are given does not matter, nor how often one is given. -/
lemma names_create_iff :
    (create identifiers pauses executes stateFile).identifiers.names =
        (create identifiers' pauses' executes' stateFile').identifiers.names ↔
      ∀ i, i ∈ identifiers ↔ i ∈ identifiers' := by
  rw [Register.names_eq_iff]
  exact forall_congr' fun i => iff_congr mem_create mem_create

/-- Mixers with the same identifiers accept the same controls. -/
lemma accepts_create_congr (same : ∀ i, i ∈ identifiers ↔ i ∈ identifiers') :
    (create identifiers pauses executes stateFile).accepts control ↔
      (create identifiers' pauses' executes' stateFile').accepts control := by
  rw [accepts_create, accepts_create]
  exact or_congr (forall_congr' fun i => not_congr (same i)) (same control)

end

end Mixer

end UseCase
