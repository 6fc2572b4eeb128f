import Mathlib.Tactic.Common
import UseCase.Proofs.Agenda

/-!
# Admission beside the active devices

An entity becomes active only if its constraint allows it beside the devices that are active, or
that stay so when it takes the place of another device. These are the facts about `admission` that
do not depend on the operation: against which devices the check is, what it guarantees, and how a
refusal reads.
-/

namespace UseCase.Rig

variable {a : Activation} {v : Verb} {kind : Kind} {i k : Nat} {e d : Entity}

/-- The old entity of a switch, if its check is to leave it out. -/
def leaving (kind : Kind) (old : Nat) : Option Nat :=
  if kind = .device then some old else none

/-- After an entity was removed the check of another one is against the devices that were active
without it. -/
lemma admission_remove (a : Activation) (v : Verb) (kind : Kind) (old new : Nat) :
    admission (a.remove kind old) v kind new none = admission a v kind new (leaving kind old) := by
  cases kind with
  | modifier => rfl
  | device =>
    have staying : ((a.remove .device old).devices.filter fun k => some k != none) =
        a.devices.filter fun k => some k != some old := by
      change ((a.devices.filter fun k => k != old).filter fun k => some k != none) = _
      rw [List.filter_filter]
      exact List.filter_congr fun _ _ => rfl
    rw [admission, admission, staying]
    rfl

/-- An entity is refused by name, for a clash. -/
lemma conflict_of_admission {leaving : Option Nat} {f : Fault}
    (found : v.entity? kind i = some e) (refused : admission a v kind i leaving = .error f) :
    ∃ clash, f = .conflict e.name clash := by
  rw [admission, found] at refused
  simp only [Entity.checkBeside] at refused
  split at refused
  · cases refused
  · cases refused
    exact ⟨_, rfl⟩

/-- An entity that is admitted beside a device does not name it as conflicting. -/
lemma not_conflicting_of_admission {leaving : Option Nat} (found : v.entity? kind i = some e)
    (admitted : admission a v kind i leaving = .ok ()) (member : k ∈ a.devices)
    (staying : some k ≠ leaving) (there : v.entity? .device k = some d) :
    d.name ∉ e.constraint.conflictingDevices := by
  have beside : d.name ∈ ((a.devices.filter fun n => some n != leaving).filterMap
      (v.entity? .device)).map Entity.name := by
    refine List.mem_map_of_mem (List.mem_filterMap.mpr ⟨k, ?_, there⟩)
    exact List.mem_filter.mpr ⟨member, bne_iff_ne.mpr staying⟩
  rw [admission, found] at admitted
  simp only [Entity.checkBeside] at admitted
  split at admitted
  · rename_i peace
    cases constraint : e.constraint with
    | any | supported devices => exact List.not_mem_nil
    | conflicting devices =>
      rw [constraint, Constraint.clash?, Option.map_eq_none_iff] at peace
      intro named
      exact List.find?_eq_none.mp peace _ beside (List.contains_iff_mem.mpr named)
  · cases admitted

end UseCase.Rig
