import Mathlib.Tactic.Common
import UseCase.Proofs.Readiness
import UseCase.Recorder
import UseCase.Sample

/-!
# Switching between entities

Where the old entity has no sequence that leads directly to the new one, a switch disables the old
one and enables the new one. The main statement `switch_eq_disable_enable` compares it with the two
operations in a row. They are the same if the new entity is admitted. The check comes first in a
switch, and between the two operations otherwise, but it is against the same devices: those that
are active without the old entity (`admission_remove`). So if the new entity is not admitted, a
switch keeps the old one, which the two operations have lost by then.
-/

namespace UseCase.Rig

variable {σ : Type} {c : Card} {a : Activation} {v : Verb} {kind : Kind} {old new : String}
variable {i j : Nat}

/-- Of two entities the one is active after the other was removed if it was before. -/
lemma isActive_remove (other : j ≠ i) : (a.remove kind i).isActive kind j = a.isActive kind j := by
  rw [Bool.eq_iff_iff, isActive_iff, isActive_iff, Activation.mem_remove]
  exact and_iff_left other

/-! ## The agendas of the three operations -/

/-- Where a verb is active it is the one that is needed. -/
lemma verbNeeded_eq (active : a.activeVerb? c = some v) : verbNeeded c a = .ok v := by
  rw [verbNeeded, active]

/-- Where an entity with the name is found its position is the one that is needed. -/
lemma positionNeeded_eq (found : v.find? kind old = some i) :
    positionNeeded v kind old = .ok i := by
  rw [positionNeeded, found]

/-- Disabling an active entity is one stage. -/
lemma agenda_disable (active : a.activeVerb? c = some v) (here : v.find? kind old = some i)
    (on : i ∈ a.active kind) :
    agenda c a (.command (.disable kind old)) = .ok [.stop kind i] := by
  rw [agenda, verbNeeded_eq active, ok_bind, positionNeeded_eq here, ok_bind,
    if_pos (isActive_iff.mpr on)]
  rfl

/-- Enabling an entity is one stage after the check, or none if it is active. -/
lemma agenda_enable (active : a.activeVerb? c = some v) (there : v.find? kind new = some j) :
    agenda c a (.command (.enable kind new)) =
      if a.isActive kind j then .ok [] else do
        admission a v kind j none
        return [.start kind j] := by
  rw [agenda, verbNeeded_eq active, ok_bind, positionNeeded_eq there, ok_bind]
  rfl

/-- What is left of a switch when the old entity was stopped: the new one is started, unless it is
active or not admitted. -/
def succession (a : Activation) (v : Verb) (kind : Kind) (old new : Nat) :
    Except Fault (List Stage) :=
  if a.isActive kind new then .ok [] else do
    admission a v kind new (leaving kind old)
    return [.start kind new]

/-- A new entity that is active or admitted can follow the old one. -/
lemma succession_of_admitted
    (joins : i ∈ a.active kind ∨ admission a v kind i (leaving kind j) = .ok ()) :
    ∃ rest, succession a v kind j i = .ok rest := by
  rw [succession]
  split_ifs with active
  · exact ⟨[], rfl⟩
  · rw [joins.resolve_left fun on => active (isActive_iff.mpr on)]
    exact ⟨[.start kind i], rfl⟩

/-- A new entity that is neither active nor admitted cannot follow the old one. -/
lemma succession_of_refused {f : Fault} (absent : i ∉ a.active kind)
    (refused : admission a v kind i (leaving kind j) = .error f) :
    succession a v kind j i = .error f := by
  rw [succession, if_neg fun active => absent (isActive_iff.mp active), refused, error_bind]

/-- A switch from an active entity to another one, to which no sequence leads directly, stops the
old entity before the rest, unless it is refused. -/
lemma agenda_switch (active : a.activeVerb? c = some v) (here : v.find? kind old = some i)
    (on : i ∈ a.active kind) (there : v.find? kind new = some j) (other : j ≠ i)
    (indirect : ∀ e, v.entity? kind i = some e → e.transitionTo? new = none) :
    agenda c a (.command (.switch kind old new)) =
      (.stop kind i :: ·) <$> succession a v kind i j := by
  obtain ⟨e, found, -⟩ := Verb.entity?_of_find? here
  have stages : handover a v kind i j new =
      .stop kind i :: if a.isActive kind j then [] else [.start kind j] := by
    rw [handover, found, Option.bind_some, indirect e found]
  rw [agenda, verbNeeded_eq active, ok_bind, positionNeeded_eq here, ok_bind,
    if_pos (isActive_iff.mpr on), positionNeeded_eq there, ok_bind, if_neg other, stages,
    succession, ← leaving]
  cases a.isActive kind j with
  | true => rfl
  | false => cases admission a v kind j (leaving kind i) <;> rfl

/-! ## One operation or two -/

section

variable (b : Backend σ)

/-- An active entity that is disabled is stopped. -/
lemma disable_eq_stop (active : a.activeVerb? c = some v) (here : v.find? kind old = some i)
    (on : i ∈ a.active kind) (surface : σ) :
    disable b c kind old ⟨a, surface⟩ = (Stage.stop kind i).run b c ⟨a, surface⟩ := by
  rw [disable_eq, agenda_disable active here on, follow, runStages_single]

/-- After the old entity was stopped, enabling the new one is the rest of the switch. -/
lemma enable_after_stop (active : a.activeVerb? c = some v) (there : v.find? kind new = some j)
    (other : j ≠ i) {rig : Rig σ} (stopped : rig.activation = a.remove kind i) :
    enable b c kind new rig = follow b c (succession a v kind i j) rig := by
  have active' : (a.remove kind i).activeVerb? c = some v :=
    Activation.activeVerb?_setActive.trans active
  rw [enable_eq, stopped, agenda_enable active' there, isActive_remove other, admission_remove,
    succession]

/-- Let `old` be active and `new` another entity of the same kind, and let no sequence lead directly
from one to the other. If `new` is active already, or admitted beside the devices that are active
without `old`, then switching is disabling the one and enabling the other: on every control surface,
so also on one that keeps a record of its steps, the answer and the rig at the end are the same. If
not, switching changes nothing and sends nothing, and the clash is the answer; but disabling and
enabling gives this answer only after `old` was disabled. -/
theorem switch_eq_disable_enable (active : a.activeVerb? c = some v)
    (here : v.find? kind old = some i) (on : i ∈ a.active kind)
    (there : v.find? kind new = some j) (differs : new ≠ old)
    (indirect : ∀ e, v.entity? kind i = some e → e.transitionTo? new = none) (surface : σ) :
    let rig : Rig σ := ⟨a, surface⟩
    let admitted := admission a v kind j (leaving kind i)
    let inTurn := do
      perform b c (.command (.disable kind old))
      perform b c (.command (.enable kind new))
    (j ∈ a.active kind ∨ admitted = .ok () →
      perform b c (.command (.switch kind old new)) rig = inTurn rig) ∧
    (j ∉ a.active kind → ∀ f, admitted = .error f →
      (∃ clash, f = .conflict new clash) ∧
      perform b c (.command (.switch kind old new)) rig = .error f rig ∧
      ∀ rig', perform b c (.command (.disable kind old)) rig = .ok () rig' →
        inTurn rig = .error f rig' ∧ rig'.activation = a.remove kind i ∧
          i ∉ rig'.activation.active kind) := by
  intro rig admitted inTurn
  obtain ⟨e, found, named⟩ := Verb.entity?_of_find? here
  obtain ⟨target, found', named'⟩ := Verb.entity?_of_find? there
  have other : j ≠ i := by
    rintro rfl
    rw [found] at found'
    cases found'
    exact differs (named'.symm.trans named)
  have switching : perform b c (.command (.switch kind old new)) rig =
      follow b c ((.stop kind i :: ·) <$> succession a v kind i j) rig := by
    rw [← agenda_switch active here on there other indirect]
    exact switch_eq b kind old new
  have stopping :
      perform b c (.command (.disable kind old)) rig = (Stage.stop kind i).run b c rig :=
    disable_eq_stop b active here on surface
  have starting {rig' : Rig σ} {u : Unit} (done : (Stage.stop kind i).run b c rig = .ok u rig') :
      perform b c (.command (.enable kind new)) rig' =
        follow b c (succession a v kind i j) rig' :=
    enable_after_stop b active there other (Stage.activation_of_ok done)
  constructor
  · intro joins
    obtain ⟨rest, accepted⟩ := succession_of_admitted joins
    rw [accepted] at switching starting
    -- Both sides begin by stopping the old entity, and differ at most in what they do after that.
    change _ = (perform b c (.command (.disable kind old)) >>= _) rig
    rw [switching, Outcome.bind_apply, stopping]
    change ((Stage.stop kind i).run b c >>= fun _ => runStages b c rest) rig = _
    rw [Outcome.bind_apply]
    cases stopped : (Stage.stop kind i).run b c rig with
    | error f rig' => rfl
    | ok u rig' => exact (starting stopped).symm
  · intro absent f refused
    -- The switch is refused before its first stage, the pair of commands only between the two.
    have declined := succession_of_refused absent refused
    rw [declined] at switching starting
    refine ⟨?_, switching, fun rig' stopped => ?_⟩
    · rw [← named']
      exact conflict_of_admission found' refused
    · have ended : rig'.activation = a.remove kind i :=
        Stage.activation_of_ok (stopping.symm.trans stopped)
      refine ⟨?_, ended, fun staying => ?_⟩
      · exact (Outcome.bind_ok stopped).trans (starting (stopping.symm.trans stopped))
      · rw [ended] at staying
        exact (Activation.mem_remove.mp staying).2 rfl

end

/-- The headphones and the microphone are active. -/
def listening : Activation := ⟨some 0, [2, 1], [], true⟩

/-- The speaker and the microphone are active. -/
def speaking : Activation := ⟨some 0, [2, 0], [], true⟩

/-- The headphones can be switched to the speaker, since nothing that stays is in its way. The
microphone cannot be switched to the headphones, since the speaker stays; if it is disabled first,
it is lost. -/
theorem switch_of_sample :
    let run := perform Recorder.backend Sample.card
    let clash : Fault := .conflict "Headphones" (.active "Speaker")
    (admission listening Sample.hifi .device 0 (leaving .device 1) = .ok () ∧
      run (.command (.switch .device "Headphones" "Speaker")) ⟨listening, .fresh⟩ = (do
        run (.command (.disable .device "Headphones"))
        run (.command (.enable .device "Speaker"))) ⟨listening, .fresh⟩) ∧
    admission speaking Sample.hifi .device 1 (leaving .device 2) = .error clash ∧
    run (.command (.switch .device "Mic" "Headphones")) ⟨speaking, .fresh⟩ =
      .error clash ⟨speaking, .fresh⟩ ∧
    ∃ rig, run (.command (.disable .device "Mic")) ⟨speaking, .fresh⟩ = .ok () rig ∧
      rig.activation = ⟨some 0, [0], [], true⟩ := by
  intro run clash
  have accepted : admission listening Sample.hifi .device 0 (leaving .device 1) = .ok () := by rfl
  have refused : admission speaking Sample.hifi .device 1 (leaving .device 2) = .error clash := by
    rfl
  have headphones : Sample.hifi.find? .device "Headphones" = some 1 := by decide
  have speaker : Sample.hifi.find? .device "Speaker" = some 0 := by decide
  have microphone : Sample.hifi.find? .device "Mic" = some 2 := by decide
  have fromHeadphones (e : Entity) (found : Sample.hifi.entity? .device 1 = some e) :
      e.transitionTo? "Speaker" = none := by
    cases found
    rfl
  have fromMicrophone (e : Entity) (found : Sample.hifi.entity? .device 2 = some e) :
      e.transitionTo? "Headphones" = none := by
    cases found
    rfl
  have active : listening.activeVerb? Sample.card = some Sample.hifi := rfl
  have active' : speaking.activeVerb? Sample.card = some Sample.hifi := rfl
  obtain ⟨switched, -⟩ := switch_eq_disable_enable Recorder.backend active headphones (by decide)
    speaker (by decide) fromHeadphones .fresh
  obtain ⟨-, kept⟩ := switch_eq_disable_enable Recorder.backend active' microphone (by decide)
    headphones (by decide) fromMicrophone .fresh
  obtain ⟨-, stays, lost⟩ := kept (by decide) clash refused
  refine ⟨⟨accepted, switched (.inr accepted)⟩, refused, stays, ?_⟩
  cases stopped : run (.command (.disable .device "Mic")) ⟨speaking, .fresh⟩ with
  | ok u rig => exact ⟨rig, rfl, (lost rig stopped).2.1⟩
  | error f rig => cases stopped

end UseCase.Rig
