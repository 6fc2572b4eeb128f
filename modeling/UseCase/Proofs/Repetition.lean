import Mathlib.Tactic.Common
import UseCase.Proofs.ActivationOrder
import UseCase.Proofs.Dispatch
import UseCase.Proofs.Switching
import UseCase.Proofs.Teardown

/-!
# Repeating an operation

Most operations aim at what is active and what is not. When such an operation has succeeded its aim
is achieved: its agenda has no stage left but one that changes nothing (`achieved_of_course`). For a
switch this is because every way of going through with it takes the old entity out
(`gone_of_handover`). The main statement `Activation.Reachable.repeats` says that the operation can
be repeated at once without any effect.
-/

namespace UseCase

namespace Rig

variable {σ : Type} {b : Backend σ} {c : Card} {a : Activation} {v : Verb} {kind : Kind}
variable {op : Operation} {stages : List Stage} {i j : Nat} {name old new : String}

/-- Whether an operation aims at what is active, and not at running sequences. To set a verb is to
enter it anew; to set none is such an aim. -/
def Operation.Aimed : Operation → Prop
  | .command (.enable _ _) | .command (.disable _ _) | .command (.switch _ _ _) | .reset => True
  | .command (.setVerb name) => name = inactiveName
  | _ => False

/-- Whether an operation has nothing to do: it has no stages, or the one that forgets a run of the
defaults while none is remembered. -/
def Achieved (c : Card) (op : Operation) (a : Activation) : Prop :=
  agenda c a op = .ok [] ∨ agenda c a op = .ok [.forget] ∧ a.defaultsApplied = false

/-- An operation that has nothing to do succeeds and changes nothing. -/
lemma Achieved.perform {rig : Rig σ} (achieved : Achieved c op rig.activation)
    (fits : rig.activation.Fits c) : perform b c op rig = .ok () rig := by
  rw [perform_eq_agenda b fits]
  rcases achieved with nothing | ⟨forgetting, forgotten⟩
  · rw [nothing]
    rfl
  · rw [forgetting]
    change EStateM.Result.ok () { rig with
      activation := { rig.activation with defaultsApplied := false } } = _
    rw [← forgotten]

/-- An operation that has nothing to do sends nothing. -/
lemma Achieved.report (achieved : Achieved c op a) (fits : a.Fits c) (b : Backend σ)
    (surface : σ) : report b c op a surface = ⟨[], .ok (), a⟩ := by
  have watched : Rig.perform b.watch c op ⟨a, ⟨surface, []⟩⟩ = .ok () ⟨a, ⟨surface, []⟩⟩ :=
    achieved.perform fits
  have plain : Rig.perform b c op ⟨a, surface⟩ = .ok () ⟨a, surface⟩ := achieved.perform fits
  rw [Rig.report, watched, plain]
  rfl

/-! ## Operations that have nothing to do -/

/-- What is active need not be enabled. -/
lemma achieved_enable (active : a.activeVerb? c = some v) (found : v.find? kind name = some i)
    (on : i ∈ a.active kind) : Achieved c (.command (.enable kind name)) a := by
  refine .inl ?_
  rw [agenda_enable active found, if_pos (isActive_iff.mpr on)]

/-- What is not active need not be disabled. -/
lemma achieved_disable (active : a.activeVerb? c = some v) (found : v.find? kind name = some i)
    (off : i ∉ a.active kind) : Achieved c (.command (.disable kind name)) a := by
  refine .inl ?_
  rw [agenda, verbNeeded_eq active, ok_bind, positionNeeded_eq found, ok_bind,
    if_neg fun on => off (isActive_iff.mp on)]
  rfl

/-- What is not active has no place to take, and nothing takes its own place. -/
lemma achieved_switch (active : a.activeVerb? c = some v) (here : v.find? kind old = some i)
    (idle : i ∉ a.active kind ∨ v.find? kind new = some i) :
    Achieved c (.command (.switch kind old new)) a := by
  refine .inl ?_
  rw [agenda, verbNeeded_eq active, ok_bind, positionNeeded_eq here, ok_bind]
  cases on : a.isActive kind i with
  | false => rfl
  | true =>
    have there := idle.resolve_left fun off => off (isActive_iff.mp on)
    rw [if_pos rfl, positionNeeded_eq there, ok_bind, if_pos rfl]
    rfl

/-- Where no verb is active there is nothing to leave. -/
lemma departure_of_idle (idle : a.verb = none) : departure c a = [] := by
  rw [departure, Activation.activeVerb?, idle]
  rfl

/-! ## What has succeeded has nothing to do -/

/-- A handover takes the old entity out, whether it goes the direct way or not, and whether the new
one was active or not. -/
lemma gone_of_handover (once : (a.active kind).Nodup) (on : i ∈ a.active kind)
    (other : j ≠ i) :
    i ∉ (effects (handover a v kind i j new) a).active kind := by
  have removed : i ∉ (a.remove kind i).active kind := fun stays =>
    (Activation.mem_remove.mp stays).2 rfl
  rw [handover]
  cases (v.entity? kind i).bind fun e => e.transitionTo? new with
  | some s =>
    change i ∉ (Stage.effect (.transition kind i j) a).active kind
    rw [Stage.effect]
    split_ifs
    · exact removed
    · intro stays
      rcases (Activation.mem_replace once on).mp stays with ⟨-, differs⟩ | same
      · exact differs rfl
      · exact other same.symm
  | none =>
    cases a.isActive kind j with
    | true => exact removed
    | false =>
      intro stays
      rcases Activation.mem_add.mp stays with stays | same
      · exact removed stays
      · exact other same.symm

/-- After the stages of an operation its aim is achieved. -/
lemma achieved_of_course (fits : a.Fits c) (aimed : op.Aimed) (course : Course c a op stages) :
    Achieved c op (effects stages a) := by
  have kept {kind : Kind} (meant : op.kind? = some kind) := course.activeVerb? meant
  cases course with
  | fixedBoot | boot | defaults => exact aimed.elim
  | enter other => exact absurd aimed other
  | quit =>
    refine .inl ?_
    rw [effects_departure fits, agenda_quit, departure_of_idle rfl]
  | reset =>
    refine .inr ?_
    rw [effects_append, effects_departure fits, agenda, departure_of_idle rfl]
    exact ⟨rfl, rfl⟩
  | enabled active found on => exact achieved_enable active found on
  | disabled active found off => exact achieved_disable active found off
  | stay active here idle => exact achieved_switch active here idle
  | enable active found _ _ =>
    exact achieved_enable ((kept rfl).trans active) found (Activation.mem_add.mpr (.inr rfl))
  | disable active found _ =>
    exact achieved_disable ((kept rfl).trans active) found fun stays =>
      (Activation.mem_remove.mp stays).2 rfl
  | switch active here on _ other _ =>
    exact achieved_switch ((kept rfl).trans active) here
      (.inl (gone_of_handover (fits.once _) on other))

end Rig

namespace Activation

open Rig

variable {σ : Type} {c : Card} {a : Activation}

/-- An operation that enables, disables, switches, resets or sets no verb, and that has succeeded,
can be repeated at once: it succeeds again, on whatever control surface, it sends nothing and it
changes nothing. -/
theorem Reachable.repeats (reached : a.Reachable c) {op : Operation} (aimed : op.Aimed)
    (b : Backend σ) (surface : σ) {rig : Rig σ} (done : perform b c op ⟨a, surface⟩ = .ok () rig) :
    ∀ {τ : Type} (b' : Backend τ) (surface' : τ),
      perform b' c op ⟨rig.activation, surface'⟩ = .ok () ⟨rig.activation, surface'⟩ ∧
      report b' c op rig.activation surface' = ⟨[], .ok (), rig.activation⟩ := by
  intro τ b' surface'
  let before : Rig σ := ⟨a, surface⟩
  have fits : before.activation.Fits c := reached.fits
  obtain ⟨stages, planned, ended⟩ := agenda_of_ok fits done
  have fits' := (agenda_chained fits planned).fits fits List.prefix_rfl
  have achieved := achieved_of_course fits aimed (agenda_course planned)
  rw [ended]
  exact ⟨achieved.perform fits', achieved.report fits' b' surface'⟩

/-- A switch from the microphone to the speaker, which is active already, takes the microphone out,
and then it has nothing to do. -/
theorem switch_repeats :
    let op : Operation := .command (.switch .device "Mic" "Speaker")
    let run := perform Recorder.backend Sample.card op
    let rig := after (run ⟨playing, .fresh⟩)
    playing.Reachable Sample.card ∧ op.Aimed ∧ run ⟨playing, .fresh⟩ = .ok () rig ∧
    rig.activation = ⟨some 0, [0], [0], true⟩ ∧ run rig = .ok () rig ∧
    report Recorder.backend Sample.card op rig.activation rig.surface =
      ⟨[], .ok (), rig.activation⟩ := by
  intro op run rig
  have aimed : op.Aimed := trivial
  have good : answer (run ⟨playing, .fresh⟩) = .ok () := by decide
  have done : run ⟨playing, .fresh⟩ = .ok () rig := eq_ok_of_answer good
  obtain ⟨again, silent⟩ := playing_reachable.repeats aimed Recorder.backend Recorder.fresh done
    Recorder.backend rig.surface
  exact ⟨playing_reachable, aimed, done, by decide, again, silent⟩

end Activation

end UseCase
