import Mathlib.Data.List.Basic
import Mathlib.Tactic.Common
import UseCase.Proofs.Activation
import UseCase.Proofs.Outcome
import UseCase.Proofs.Plan
import UseCase.Transition

/-!
# Stages

What an operation does to an activation, it does in stages. A stage runs one sequence and takes
effect when that sequence is completed; if the sequence fails, the stage has no effect and the
operation ends. `runStages` runs some stages in a row and `completed` lists those that were
completed, so that `after_runStages` accounts for the activation at the end, whether the stages came
to their end or not: the effects of the completed stages, in order, and nothing else.

`Stage.Ready` says when a stage can be run at all and `Chained` that each of some stages is ready
when its turn comes. Ready stages keep the invariant `Activation.Fits`, and they fail for no other
reason than their sequences.
-/

namespace UseCase

/-- Faults that running a sequence can end in: a refused step or a call that cannot be made. -/
def Fault.OfSequence : Fault → Prop
  | .sequence _ _ _ | .configuration (.call _ _) => True
  | _ => False

/-- Performing a plan fails for a refused step or for the call that stops it. -/
lemma Plan.perform_fault {σ : Type} {b : Backend σ} {label : String} {p : Plan} {s s' : σ}
    {f : Fault} (failed : p.perform b label s = .error f s') : f.OfSequence := by
  -- Sending is a loop of its own; what follows it depends on the fault of the plan alone.
  have sending (count : Nat) (steps : List Step) (s s' : σ)
      (failed : send b label count steps s = .error f s') : f.OfSequence := by
    induction steps generalizing count s with
    | nil => cases failed
    | cons step rest ih =>
      rw [send, Outcome.bind_apply, Sequence.sendStep, Outcome.adaptExcept_apply] at failed
      cases applied : b.apply step s with
      | ok u t =>
        rw [applied] at failed
        exact ih (count + 1) t failed
      | error cause t =>
        rw [applied] at failed
        cases failed
        trivial
  rw [perform, Outcome.bind_apply] at failed
  cases sent : send b label 0 p.steps s with
  | ok u t =>
    rw [sent] at failed
    cases fault : p.fault with
    | none =>
      rw [fault] at failed
      cases failed
    | some cause =>
      rw [fault] at failed
      cases failed
      trivial
  | error g t =>
    rw [sent] at failed
    cases failed
    exact sending 0 p.steps s _ sent

namespace Rig

variable {σ α β : Type} {c : Card} {a : Activation} {v : Verb}

/-- A part of an operation that takes effect when its sequence is completed. -/
inductive Stage where
  | fixedBoot
  | boot
  | defaults
  /-- Forgets that the defaults sequence was run; it has no sequence of its own. -/
  | forget
  | enterVerb (index : Nat)
  | leaveVerb
  | start (kind : Kind) (index : Nat)
  | stop (kind : Kind) (index : Nat)
  /-- The sequence that leads directly from one entity to another. -/
  | transition (kind : Kind) (old new : Nat)
  deriving DecidableEq, Repr

namespace Stage

/-- What a completed stage makes of an activation. -/
def effect : Stage → Activation → Activation
  | fixedBoot, a | boot, a => a
  | defaults, a => { a with defaultsApplied := true }
  | forget, a => { a with defaultsApplied := false }
  | enterVerb index, a => { a with verb := some index }
  | leaveVerb, a => a.leave
  | start kind index, a => a.add kind index
  | stop kind index, a => a.remove kind index
  | transition kind old new, a =>
    if a.isActive kind new then a.remove kind old else a.replace kind old new

/-- The sequence of a stage, run for the verb that is active. -/
def task (b : Backend σ) (c : Card) : Stage → Op σ Unit
  | fixedBoot => runFixedBoot b c
  | boot => runBoot b c
  | defaults => Rig.run b c "defaults" none c.defaultsSequence
  | forget => pure ()
  | enterVerb index =>
    match c.verb? index with
    | none => throw (.configuration (.missingVerb index))
    | some v => Rig.run b c (v.name ++ " enable") (some v) v.enable
  | leaveVerb => do
    let v ← activeVerb c
    Rig.run b c (v.name ++ " disable") (some v) v.disable
  | start kind index => do
    let v ← activeVerb c
    let e ← entity v kind index
    Rig.run b c (e.name ++ " enable") (some v) e.enable
  | stop kind index => do
    let v ← activeVerb c
    let e ← entity v kind index
    Rig.run b c (e.name ++ " disable") (some v) e.disable
  | transition kind old new => do
    let v ← activeVerb c
    let e ← entity v kind old
    let target ← entity v kind new
    match e.transitionTo? target.name with
    | none => pure ()
    | some s => Rig.run b c (e.name ++ " to " ++ target.name ++ " transition") (some v) s

/-- Runs a stage: its sequence, and then its effect. -/
def run (b : Backend σ) (c : Card) (stage : Stage) : Op σ Unit := do
  stage.task b c
  update stage.effect

/-- Whether a stage can be run: what it starts exists and is not active, what it stops is active, a
verb is entered while there is none, and it is left when nothing else is active. -/
def Ready (c : Card) (a : Activation) : Stage → Prop
  | fixedBoot | boot | defaults => True
  | forget => True
  | enterVerb index => (c.verb? index).isSome ∧ a.verb = none
  | leaveVerb => (a.activeVerb? c).isSome ∧ ∀ kind, a.active kind = []
  | start kind index =>
    ∃ v, a.activeVerb? c = some v ∧ index < (v.entities kind).length ∧ index ∉ a.active kind
  | stop kind index => (a.activeVerb? c).isSome ∧ index ∈ a.active kind
  | transition kind old new =>
    ∃ v, a.activeVerb? c = some v ∧ old ∈ a.active kind ∧ new < (v.entities kind).length ∧ new ≠ old

end Stage

/-- Runs stages one after the other. -/
def runStages (b : Backend σ) (c : Card) : List Stage → Op σ Unit
  | [] => pure ()
  | stage :: rest => do
    stage.run b c
    runStages b c rest

/-- Those of some stages that are completed when they are run one after the other. -/
def completed (b : Backend σ) (c : Card) : List Stage → Rig σ → List Stage
  | [], _ => []
  | stage :: rest, rig =>
    match stage.run b c rig with
    | .ok _ rig => stage :: completed b c rest rig
    | .error _ _ => []

/-- What completed stages make of an activation. -/
def effects (stages : List Stage) (a : Activation) : Activation :=
  stages.foldl (fun a stage => stage.effect a) a

/-- Each of some stages is ready when those before it have taken effect. -/
def Chained (c : Card) : Activation → List Stage → Prop
  | _, [] => True
  | a, stage :: rest => stage.Ready c a ∧ Chained c (stage.effect a) rest

/-! ## Operations that keep the activation -/

/-- An operation that leaves the activation alone, however it ends. -/
def Steady (x : Op σ α) : Prop :=
  ∀ rig, (after (x rig)).activation = rig.activation

namespace Steady

/-- An answer leaves the activation. -/
lemma pure (a : α) : Steady (pure a : Op σ α) := fun _ => rfl

/-- A failure leaves the activation. -/
lemma throw (f : Fault) : Steady (throw f : Op σ α) := fun _ => rfl

/-- Steady operations in a row are steady. -/
lemma bind {x : Op σ α} {f : α → Op σ β} (first : Steady x) (next : ∀ a, Steady (f a)) :
    Steady (x >>= f) := by
  intro rig
  rw [Outcome.bind_apply]
  have kept := first rig
  cases found : x rig with
  | ok a rig' =>
    rw [found] at kept
    exact (next a rig').trans kept
  | error f rig' =>
    rw [found] at kept
    exact kept

/-- What happens on the surface leaves the activation. -/
lemma onSurface (x : EStateM Fault σ α) : Steady (onSurface x : Op σ α) := by
  intro rig
  rw [Rig.onSurface, Outcome.after_onPart]

/-- Running a sequence leaves the activation. -/
lemma run (b : Backend σ) (c : Card) (label : String) (verb : Option Verb) (s : Sequence) :
    Steady (Rig.run b c label verb s) :=
  .onSurface _

/-- Asking for the active verb leaves the activation. -/
lemma activeVerb (c : Card) : Steady (activeVerb c : Op σ Verb) := by
  refine .bind (fun _ => rfl) fun rig => ?_
  cases rig.activation.activeVerb? c with
  | none => exact .throw _
  | some v => exact .pure v

/-- Asking for an entity leaves the activation. -/
lemma entity (v : Verb) (kind : Kind) (index : Nat) :
    Steady (entity v kind index : Op σ Entity) := by
  unfold Rig.entity
  cases v.entity? kind index with
  | none => exact .throw _
  | some e => exact .pure e

/-- The boot leaves the activation. -/
lemma runBoot (b : Backend σ) (c : Card) : Steady (runBoot b c) := by
  refine .bind (.onSurface _) fun changed => ?_
  cases changed with
  | false => exact .onSurface _
  | true => exact .bind (.run b c _ _ _) fun _ => .onSurface _

end Steady

/-- The sequence of a stage does not touch the activation. -/
lemma Stage.task_steady (b : Backend σ) (c : Card) (stage : Stage) : Steady (stage.task b c) := by
  cases stage with
  | fixedBoot => exact .run b c _ _ _
  | boot => exact .runBoot b c
  | defaults => exact .run b c _ _ _
  | forget => exact .pure ()
  | enterVerb index =>
    rw [Stage.task]
    cases c.verb? index with
    | none => exact .throw _
    | some v => exact .run b c _ _ _
  | leaveVerb => exact .bind (.activeVerb c) fun v => .run b c _ _ _
  | start kind index =>
    exact .bind (.activeVerb c) fun v => .bind (.entity v kind index) fun e => .run b c _ _ _
  | stop kind index =>
    exact .bind (.activeVerb c) fun v => .bind (.entity v kind index) fun e => .run b c _ _ _
  | transition kind old new =>
    refine .bind (.activeVerb c) fun v => .bind (.entity v kind old) fun e =>
      .bind (.entity v kind new) fun target => ?_
    cases e.transitionTo? target.name with
    | none => exact .pure ()
    | some s => exact .run b c _ _ _

/-! ## What stages make of an activation -/

namespace Stage

variable {b : Backend σ} {stage : Stage} {rig rig' : Rig σ} {f : Fault} {u : Unit}

/-- A completed stage takes effect. -/
lemma activation_of_ok (done : stage.run b c rig = .ok u rig') :
    rig'.activation = stage.effect rig.activation := by
  have kept := stage.task_steady b c rig
  rw [run, Outcome.bind_apply] at done
  cases found : stage.task b c rig with
  | ok w mid =>
    rw [found] at done kept
    cases done
    exact congrArg stage.effect kept
  | error g mid =>
    rw [found] at done
    cases done

/-- A stage that fails has no effect. -/
lemma activation_of_error (failed : stage.run b c rig = .error f rig') :
    rig'.activation = rig.activation := by
  have kept := stage.task_steady b c rig
  rw [run, Outcome.bind_apply] at failed
  cases found : stage.task b c rig with
  | ok w mid =>
    rw [found] at failed
    cases failed
  | error g mid =>
    rw [found] at failed kept
    cases failed
    exact kept

end Stage

section

variable (b : Backend σ) (c : Card)

/-- Stages run in their order. -/
lemma runStages_append (first second : List Stage) :
    runStages b c (first ++ second) = (do
      runStages b c first
      runStages b c second) := by
  induction first with
  | nil => rw [List.nil_append, runStages, pure_bind]
  | cons stage rest ih => rw [List.cons_append, runStages, ih, runStages, bind_assoc]

/-- The completed stages are the first of the stages. -/
lemma completed_begins (stages : List Stage) (rig : Rig σ) :
    completed b c stages rig <+: stages := by
  induction stages generalizing rig with
  | nil => exact List.prefix_rfl
  | cons stage rest ih =>
    rw [completed]
    cases stage.run b c rig with
    | ok u rig' => exact List.cons_prefix_cons.mpr ⟨rfl, ih rig'⟩
    | error f rig' => exact List.nil_prefix

/-- The first stages of a single one are none or that one. -/
lemma begun_single {stage : Stage} {done : List Stage} (begun : done <+: [stage]) :
    done = [] ∨ done = [stage] := by
  rcases List.prefix_cons_iff.mp begun with none | ⟨rest, rfl, later⟩
  · exact .inl none
  · exact .inr (by rw [List.prefix_nil.mp later])

/-- Stages that come to their end are all completed. -/
lemma completed_of_ok {stages : List Stage} {rig rig' : Rig σ} {u : Unit}
    (done : runStages b c stages rig = .ok u rig') : completed b c stages rig = stages := by
  induction stages generalizing rig with
  | nil => rfl
  | cons stage rest ih =>
    rw [runStages, Outcome.bind_apply] at done
    rw [completed]
    cases found : stage.run b c rig with
    | ok w mid =>
      rw [found] at done
      exact congrArg (stage :: ·) (ih done)
    | error f mid =>
      rw [found] at done
      cases done

/-- Stages that fail are not all completed. -/
lemma completed_of_error {stages : List Stage} {rig rig' : Rig σ} {f : Fault}
    (failed : runStages b c stages rig = .error f rig') : completed b c stages rig ≠ stages := by
  induction stages generalizing rig with
  | nil => cases failed
  | cons stage rest ih =>
    rw [runStages, Outcome.bind_apply] at failed
    rw [completed]
    cases found : stage.run b c rig with
    | ok w mid =>
      rw [found] at failed
      exact fun same => ih failed (List.cons.inj same).2
    | error g mid => exact (List.cons_ne_nil stage rest).symm

/-- Of two lists of stages the second is begun only when the first is completed. -/
lemma completed_append (first second : List Stage) (rig : Rig σ) :
    completed b c (first ++ second) rig =
      match runStages b c first rig with
      | .ok _ rig' => first ++ completed b c second rig'
      | .error _ _ => completed b c first rig := by
  induction first generalizing rig with
  | nil => rfl
  | cons stage rest ih =>
    rw [List.cons_append, completed, completed, runStages, Outcome.bind_apply]
    cases stage.run b c rig with
    | ok u mid =>
      simp only [ih mid]
      cases runStages b c rest mid <;> rfl
    | error f mid => rfl

/-- The activation at the end of some stages is what the completed ones made of it. -/
theorem after_runStages (stages : List Stage) (rig : Rig σ) :
    (after (runStages b c stages rig)).activation =
      effects (completed b c stages rig) rig.activation := by
  induction stages generalizing rig with
  | nil => rfl
  | cons stage rest ih =>
    rw [runStages, Outcome.bind_apply, completed]
    cases found : stage.run b c rig with
    | ok u mid => exact (ih mid).trans (by rw [Stage.activation_of_ok found]; rfl)
    | error f mid => exact Stage.activation_of_error found

end

/-! ## Stages that are ready -/

/-- Stages take effect in their order. -/
lemma effects_append (first second : List Stage) (a : Activation) :
    effects (first ++ second) a = effects second (effects first a) :=
  List.foldl_append

/-- Stages in a row are chained if the second ones are ready after the first. -/
lemma chained_append {first second : List Stage} :
    Chained c a (first ++ second) ↔ Chained c a first ∧ Chained c (effects first a) second := by
  induction first generalizing a with
  | nil => exact (and_iff_right trivial).symm
  | cons stage rest ih => exact (and_congr_right fun _ => ih).trans and_assoc.symm

/-- The first of chained stages are chained. -/
lemma Chained.beginning {stages done : List Stage} (chained : Chained c a stages)
    (begun : done <+: stages) : Chained c a done := by
  obtain ⟨rest, rfl⟩ := begun
  exact (chained_append.mp chained).1

/-- A ready stage keeps the invariant. -/
lemma Stage.Ready.fits {stage : Stage} (fits : a.Fits c) (ready : stage.Ready c a) :
    (stage.effect a).Fits c := by
  cases stage with
  | fixedBoot => exact fits
  | boot => exact fits
  | defaults => exact fits.defaults true
  | forget => exact fits.defaults false
  | enterVerb index =>
    obtain ⟨v, found⟩ := Option.isSome_iff_exists.mp ready.1
    exact .enter found (fits.idle ready.2)
  | leaveVerb => exact .leave c a
  | start kind index =>
    obtain ⟨v, active, inside, new⟩ := ready
    exact fits.add active inside new
  | stop kind index =>
    obtain ⟨v, active⟩ := Option.isSome_iff_exists.mp ready.1
    exact fits.remove active
  | transition kind old new =>
    obtain ⟨v, active, -, inside, -⟩ := ready
    rw [Stage.effect]
    split
    · exact fits.remove active
    · rename_i absent
      refine fits.replace active inside fun member => absent ?_
      exact List.contains_iff_mem.mpr member

/-- Chained stages keep the invariant, wherever they end. -/
lemma Chained.fits {stages done : List Stage} (fits : a.Fits c) (chained : Chained c a stages)
    (begun : done <+: stages) : (effects done a).Fits c := by
  induction stages generalizing a done with
  | nil => rwa [List.prefix_nil.mp begun]
  | cons stage rest ih =>
    cases done with
    | nil => exact fits
    | cons first others =>
      obtain ⟨rfl, later⟩ := List.cons_prefix_cons.mp begun
      have next : (first.effect a).Fits c := chained.1.fits fits
      change (effects others (first.effect a)).Fits c
      exact ih next chained.2 later

/-! ## Faults of stages -/

/-- Where a verb is active it is the answer. -/
lemma activeVerb_apply {rig : Rig σ} (active : rig.activation.activeVerb? c = some v) :
    activeVerb c rig = .ok v rig := by
  rw [activeVerb, Outcome.bind_ok (Outcome.get_apply rig), active]
  rfl

/-- Where an entity is at a position it is the answer. -/
lemma entity_apply {kind : Kind} {index : Nat} {e : Entity} (found : v.entity? kind index = some e)
    (rig : Rig σ) : entity v kind index rig = .ok e rig := by
  rw [entity, found]
  rfl

/-- There is an entity at every position of a kind. -/
lemma exists_entity {kind : Kind} {index : Nat} (inside : index < (v.entities kind).length) :
    ∃ e, v.entity? kind index = some e :=
  ⟨_, List.getElem?_eq_getElem inside⟩

/-- Running a sequence of the card fails as a sequence does. -/
lemma run_fault {b : Backend σ} {label : String} {verb : Option Verb} {s : Sequence}
    {rig rig' : Rig σ} {f : Fault} (failed : run b c label verb s rig = .error f rig') :
    f.OfSequence := by
  have same := Outcome.answer_onPart Rig.surface
    (fun rig surface => { rig with surface := surface })
    (s.run b c.info.controlDevice label verb) rig
  change answer (run b c label verb s rig) = _ at same
  rw [failed, Sequence.run_eq_perform] at same
  exact Plan.perform_fault (eq_error_of_answer same.symm)

/-- Acting on the surface at start-up fails as a sequence does. -/
lemma onSurface_boot_fault {x : EStateM ControlFault σ α} {rig rig' : Rig σ} {f : Fault}
    (failed : onSurface (x.adaptExcept bootFault) rig = .error f rig') : f.OfSequence := by
  have same := Outcome.answer_onPart Rig.surface
    (fun rig surface => { rig with surface := surface }) (x.adaptExcept bootFault) rig
  change answer (onSurface (x.adaptExcept bootFault) rig) = _ at same
  rw [failed, Outcome.adaptExcept_apply] at same
  cases found : x rig.surface with
  | ok u t =>
    rw [found] at same
    cases same
  | error cause t =>
    rw [found] at same
    cases same
    trivial

/-- Starting the control surface up fails as a sequence does. -/
lemma runBoot_fault {b : Backend σ} {rig rig' : Rig σ} {f : Fault}
    (failed : runBoot b c rig = .error f rig') : f.OfSequence := by
  rw [runBoot, Outcome.bind_apply] at failed
  cases asked : onSurface (b.changed.adaptExcept bootFault) rig with
  | error g mid =>
    rw [asked] at failed
    cases failed
    exact onSurface_boot_fault asked
  | ok changed mid =>
    rw [asked] at failed
    cases changed with
    | false => exact onSurface_boot_fault failed
    | true =>
      simp only [if_true, Outcome.bind_apply] at failed
      cases booted : run b c "boot" none c.boot mid with
      | ok u last =>
        rw [booted] at failed
        exact onSurface_boot_fault failed
      | error g last =>
        rw [booted] at failed
        cases failed
        exact run_fault booted

/-- A ready stage fails only if its sequence does. -/
lemma Stage.Ready.task_fault {b : Backend σ} {stage : Stage} {rig rig' : Rig σ} {f : Fault}
    (fits : rig.activation.Fits c) (ready : stage.Ready c rig.activation)
    (failed : stage.task b c rig = .error f rig') : f.OfSequence := by
  cases stage with
  | fixedBoot => exact run_fault failed
  | boot => exact runBoot_fault failed
  | defaults => exact run_fault failed
  | forget => cases failed
  | enterVerb index =>
    obtain ⟨v, found⟩ := Option.isSome_iff_exists.mp ready.1
    rw [Stage.task, found] at failed
    exact run_fault failed
  | leaveVerb =>
    obtain ⟨v, active⟩ := Option.isSome_iff_exists.mp ready.1
    rw [Stage.task, Outcome.bind_ok (activeVerb_apply active)] at failed
    exact run_fault failed
  | start kind index =>
    obtain ⟨v, active, inside, -⟩ := ready
    obtain ⟨e, found⟩ := exists_entity inside
    rw [Stage.task, Outcome.bind_ok (activeVerb_apply active),
      Outcome.bind_ok (entity_apply found rig)] at failed
    exact run_fault failed
  | stop kind index =>
    obtain ⟨v, active⟩ := Option.isSome_iff_exists.mp ready.1
    obtain ⟨e, found⟩ := exists_entity (fits.lt_length active ready.2)
    rw [Stage.task, Outcome.bind_ok (activeVerb_apply active),
      Outcome.bind_ok (entity_apply found rig)] at failed
    exact run_fault failed
  | transition kind old new =>
    obtain ⟨v, active, member, inside, -⟩ := ready
    obtain ⟨e, found⟩ := exists_entity (fits.lt_length active member)
    obtain ⟨target, found'⟩ := exists_entity inside
    rw [Stage.task, Outcome.bind_ok (activeVerb_apply active),
      Outcome.bind_ok (entity_apply found rig),
      Outcome.bind_ok (entity_apply found' rig)] at failed
    cases way : e.transitionTo? target.name with
    | none =>
      rw [way] at failed
      cases failed
    | some s =>
      rw [way] at failed
      exact run_fault failed

/-- Chained stages fail only if one of their sequences does. -/
lemma Chained.fault {b : Backend σ} {stages : List Stage} {rig rig' : Rig σ} {f : Fault}
    (fits : rig.activation.Fits c) (chained : Chained c rig.activation stages)
    (failed : runStages b c stages rig = .error f rig') : f.OfSequence := by
  induction stages generalizing rig with
  | nil => cases failed
  | cons stage rest ih =>
    rw [runStages, Outcome.bind_apply] at failed
    cases found : stage.run b c rig with
    | ok u mid =>
      -- The stage has taken effect, so the others are ready where they begin.
      have here := Stage.activation_of_ok found
      rw [found] at failed
      refine ih ?_ ?_ failed
      · rw [here]
        exact chained.1.fits fits
      · rw [here]
        exact chained.2
    | error g mid =>
      rw [found] at failed
      cases failed
      rw [Stage.run, Outcome.bind_apply] at found
      cases tried : stage.task b c rig with
      | ok u last =>
        rw [tried] at found
        cases found
      | error h last =>
        rw [tried] at found
        cases found
        exact chained.1.task_fault fits tried

end Rig

end UseCase
