import Mathlib.Logic.Relation
import Mathlib.Tactic.Common
import UseCase.Proofs.Agenda

/-!
# Operations that are made of steps

All operations but the start-up do nothing to a control surface but send steps, whatever the card
and the activation are and however they end (`Rig.perform_stepwise`). So what steps keep, all these
operations keep.
-/

namespace UseCase.Rig

variable {σ α β : Type} {b : Backend σ} {c : Card}

/-- A control surface to which steps lead, accepted or not. -/
def Sent (b : Backend σ) : σ → σ → Prop :=
  Relation.ReflTransGen fun s s' => ∃ step, after (b.apply step s) = s'

/-- An operation that does nothing to the control surface but send steps. -/
def Stepwise (b : Backend σ) (x : Op σ α) : Prop :=
  ∀ rig, Sent b rig.surface (after (x rig)).surface

/-- The steps of a plan are sent to the surface one by one, as far as it takes them. -/
lemma sent_send (label : String) (count : Nat) (steps : List Step) (s : σ) :
    Sent b s (after (Plan.send b label count steps s)) := by
  induction steps generalizing count s with
  | nil => exact .refl
  | cons step rest ih =>
    rw [Plan.send, Sequence.sendStep, Outcome.bind_apply, Outcome.adaptExcept_apply]
    have first : Sent b s (after (b.apply step s)) := .single ⟨step, rfl⟩
    cases applied : b.apply step s with
    | ok u s' =>
      rw [applied] at first
      exact first.trans (ih (count + 1) s')
    | error cause s' =>
      rw [applied] at first
      exact first

namespace Stepwise

/-- An answer sends nothing. -/
lemma pure (a : α) : Stepwise b (pure a : Op σ α) := fun _ => .refl

/-- A failure sends nothing. -/
lemma throw (f : Fault) : Stepwise b (throw f : Op σ α) := fun _ => .refl

/-- A change of the activation sends nothing. -/
lemma update (f : Activation → Activation) : Stepwise b (update f : Op σ Unit) := fun _ => .refl

/-- What sends steps only, and then again, sends steps only. -/
lemma bind {x : Op σ α} {f : α → Op σ β} (first : Stepwise b x) (next : ∀ a, Stepwise b (f a)) :
    Stepwise b (x >>= f) := by
  intro rig
  rw [Outcome.bind_apply]
  have before := first rig
  cases found : x rig with
  | ok a rig' =>
    rw [found] at before
    exact before.trans (next a rig')
  | error f rig' =>
    rw [found] at before
    exact before

/-- What is known already sends nothing. -/
lemma ofExcept (x : Except Fault α) : Stepwise b (ofExcept x : Op σ α) := by
  cases x with
  | ok a => exact .pure a
  | error f => exact .throw f

/-- What an operation does may depend on the activation. -/
lemma get {f : Rig σ → Op σ α} (next : ∀ rig, Stepwise b (f rig)) :
    Stepwise b (MonadState.get >>= f) :=
  fun rig => next rig rig

/-- Running a sequence sends steps only. -/
lemma run (label : String) (verb : Option Verb) (s : Sequence) :
    Stepwise b (Rig.run b c label verb s) := by
  intro rig
  rw [Rig.run, Sequence.run_eq_perform, onSurface, Outcome.after_onPart, Plan.perform,
    Outcome.bind_apply]
  have sent := sent_send (b := b) label 0 (s.plan verb c.info.controlDevice).steps rig.surface
  cases ran : Plan.send b label 0 (s.plan verb c.info.controlDevice).steps rig.surface with
  | ok u surface =>
    rw [ran] at sent
    cases (s.plan verb c.info.controlDevice).fault <;> exact sent
  | error f surface =>
    rw [ran] at sent
    exact sent

/-- Asking for the active verb sends nothing. -/
lemma activeVerb : Stepwise b (activeVerb c : Op σ Verb) := by
  refine .get fun rig => ?_
  cases rig.activation.activeVerb? c with
  | none => exact .throw _
  | some v => exact .pure v

/-- Asking for a position sends nothing. -/
lemma position (v : Verb) (kind : Kind) (name : String) :
    Stepwise b (position v kind name : Op σ Nat) := by
  unfold Rig.position
  cases v.find? kind name with
  | none => exact .throw _
  | some index => exact .pure index

/-- Asking for an entity sends nothing. -/
lemma entity (v : Verb) (kind : Kind) (index : Nat) :
    Stepwise b (entity v kind index : Op σ Entity) := by
  unfold Rig.entity
  cases v.entity? kind index with
  | none => exact .throw _
  | some e => exact .pure e

/-- Checking an entity beside the active ones sends nothing. -/
lemma checkBeside (v : Verb) (e : Entity) (leaving : Option Nat) :
    Stepwise b (checkBeside v e leaving : Op σ Unit) :=
  .get fun _ => .ofExcept _

/-- Making an entity active sends steps only. -/
lemma activate (v : Verb) (kind : Kind) (index : Nat) : Stepwise b (activate b c v kind index) :=
  .bind (.entity v kind index) fun _ => .bind (.run _ _ _) fun _ => .update _

/-- Making an entity inactive sends steps only. -/
lemma deactivate (v : Verb) (kind : Kind) (index : Nat) :
    Stepwise b (deactivate b c v kind index) :=
  .bind (.entity v kind index) fun _ => .bind (.run _ _ _) fun _ => .update _

/-- Making entities inactive one after another sends steps only. -/
lemma deactivateAll (v : Verb) (kind : Kind) (indices : List Nat) :
    Stepwise b (deactivateAll b c v kind indices) := by
  induction indices with
  | nil => exact .pure ()
  | cons index rest ih => exact .bind (.deactivate v kind index) fun _ => ih

/-- Leaving a verb sends steps only. -/
lemma leaveVerb (index : Nat) : Stepwise b (leaveVerb b c index) := by
  unfold Rig.leaveVerb
  cases c.verb? index with
  | none => exact .throw _
  | some v =>
    have all (kind : Kind) : Stepwise b (deactivateKind b c v kind) :=
      .get fun _ => .deactivateAll v kind _
    exact .bind (all .modifier) fun _ => .bind (all .device) fun _ =>
      .bind (.run _ _ _) fun _ => .update _

/-- Running the defaults sends steps only. -/
lemma runDefaults : Stepwise b (runDefaults b c) :=
  .bind (.run _ _ _) fun _ => .update _

/-- Entering a verb sends steps only. -/
lemma enterVerb (name : String) (index : Nat) : Stepwise b (enterVerb b c name index) := by
  refine .get fun rig => ?_
  cases c.verb? index with
  | none =>
    split_ifs
    · exact .throw _
    · exact .bind .runDefaults fun _ => .throw _
  | some v =>
    split_ifs
    · exact .bind (.run _ _ _) fun _ => .update _
    · exact .bind .runDefaults fun _ => .bind (.run _ _ _) fun _ => .update _

/-- Looking for the verb to be set sends nothing. -/
lemma target (name : String) : Stepwise b (target c name : Op σ (Option Nat)) := by
  unfold Rig.target
  split_ifs
  · exact .pure none
  · cases c.findVerb? name with
    | none => exact .throw _
    | some index => exact .pure (some index)

/-- Setting a verb sends steps only. -/
lemma setVerb (name : String) : Stepwise b (setVerb b c name) := by
  refine .bind (.target name) fun next => .get fun rig => ?_
  cases next with
  | none =>
    cases rig.activation.verb with
    | none => exact .pure ()
    | some current => exact .bind (.leaveVerb current) fun _ => .pure ()
  | some index =>
    cases rig.activation.verb with
    | none => exact .enterVerb name index
    | some current => exact .bind (.leaveVerb current) fun _ => .enterVerb name index

/-- Enabling an entity sends steps only. -/
lemma enable (kind : Kind) (name : String) : Stepwise b (enable b c kind name) := by
  refine .bind .activeVerb fun v => .bind (.position v kind name) fun index => .get fun rig => ?_
  split_ifs
  · exact .pure ()
  · exact .bind (.entity v kind index) fun e => .bind (.checkBeside v e none) fun _ =>
      .activate v kind index

/-- Disabling an entity sends steps only. -/
lemma disable (kind : Kind) (name : String) : Stepwise b (disable b c kind name) := by
  refine .bind .activeVerb fun v => .bind (.position v kind name) fun index => .get fun rig => ?_
  split_ifs
  · exact .deactivate v kind index
  · exact .pure ()

/-- Switching from an active entity sends steps only. -/
lemma switchActive (v : Verb) (kind : Kind) (old new : String) (i j : Nat) :
    Stepwise b (switchActive b c v kind old new i j) := by
  refine .bind (.entity v kind i) fun e => .bind (.entity v kind j) fun e' => .get fun rig => ?_
  dsimp only
  cases e.transitionTo? new with
  | none =>
    by_cases both : rig.activation.isActive kind j
    · simp only [if_pos both]
      exact .bind (.deactivate v kind i) fun _ => .pure ()
    · simp only [if_neg both]
      exact .bind (.checkBeside _ _ _) fun _ => .bind (.deactivate v kind i) fun _ =>
        .activate v kind j
  | some s =>
    by_cases both : rig.activation.isActive kind j
    · rw [if_pos both]
      exact .bind (.run _ _ _) fun _ => .update _
    · rw [if_neg both]
      exact .bind (.checkBeside _ _ _) fun _ => .bind (.run _ _ _) fun _ => .update _

/-- Switching sends steps only. -/
lemma switch (kind : Kind) (old new : String) : Stepwise b (switch b c kind old new) := by
  refine .bind .activeVerb fun v => .bind (.position v kind old) fun i => .get fun rig => ?_
  split_ifs
  · refine .bind (.position v kind new) fun j => ?_
    split_ifs
    · exact .pure ()
    · exact .switchActive v kind old new i j
  · exact .pure ()

end Stepwise

/-- All operations but the start-up are made of steps, on any card and in any activation. -/
lemma perform_stepwise {op : Operation} (other : op ≠ .command .boot) :
    Stepwise b (perform b c op) := by
  cases op with
  | reset => exact .bind (.setVerb inactiveName) fun _ => .update _
  | command command =>
    cases command with
    | fixedBoot => exact .run _ _ _
    | boot => exact absurd rfl other
    | defaults => exact .runDefaults
    | setVerb name => exact .setVerb name
    | enable kind name => exact .enable kind name
    | disable kind name => exact .disable kind name
    | switch kind old new => exact .switch kind old new

end UseCase.Rig
