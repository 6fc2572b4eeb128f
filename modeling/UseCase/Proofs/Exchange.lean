import Mathlib.Data.List.Basic
import Mathlib.Tactic.Common
import UseCase.Proofs.Outcome
import UseCase.Proofs.Plan

/-!
# What a control surface is told

A control surface shows what became of the hardware, not what it was asked to do. `Backend.watch`
puts a record of all exchanges beside it: every step that it was given, in order, with its reason
for refusing it if it did. Watching changes nothing (`run_watch`): a run has the same answer and
leaves the same surface.

`Sequence.account` gathers what a run comes to, its exchanges and its answer. A plan that is sent
while every step is accepted puts all its steps on record (`send_accepted`); the first step that is
refused is the last one on record (`send_refused`).
-/

namespace UseCase

variable {ε σ τ α β : Type}

/-- A step that a control surface was given, and why it refused it, if it did. -/
structure Exchange where
  step : Step
  refusal : Option ControlFault
  deriving DecidableEq, Repr

/-- A step that was accepted. -/
def Exchange.accepted (step : Step) : Exchange := ⟨step, none⟩

/-- A step that was refused. -/
def Exchange.refused (step : Step) (cause : ControlFault) : Exchange := ⟨step, some cause⟩

/-- A control surface with its exchanges so far, in order. -/
structure Watched (σ : Type) where
  surface : σ
  exchanges : List Exchange
  deriving DecidableEq, Repr

/-- The same control surface with a record of what it is told. -/
def Backend.watch (b : Backend σ) : Backend (Watched σ) where
  apply step := fun w => match b.apply step w.surface with
    | .ok _ s => .ok () ⟨s, w.exchanges ++ [.accepted step]⟩
    | .error cause s => .error cause ⟨s, w.exchanges ++ [.refused step cause]⟩
  changed := UseCase.onPart Watched.surface (fun w s => { w with surface := s }) b.changed
  store := UseCase.onPart Watched.surface (fun w s => { w with surface := s }) b.store
  restore := UseCase.onPart Watched.surface (fun w s => { w with surface := s }) b.restore

/-- A control surface that judges every step by itself: `refusal?` is its reason against one. -/
def Backend.judge (refusal? : Step → Option ControlFault) : Backend Unit where
  apply step := match refusal? step with
    | none => pure ()
    | some cause => throw cause
  changed := pure true
  store := pure ()
  restore := pure ()

/-- A control surface that accepts every step. -/
def Backend.acceptAll : Backend Unit := .judge fun _ => none

/-- What a run comes to: the exchanges with the control surface, and the answer. -/
structure Account where
  exchanges : List Exchange
  answer : Except Fault Unit

/-- What running a sequence comes to on a control surface. -/
def Sequence.account (s : Sequence) (b : Backend σ) (device : Option String) (label : String)
    (verb : Option Verb) (surface : σ) : Account where
  exchanges := (after (s.run b.watch device label verb ⟨surface, []⟩)).exchanges
  answer := UseCase.answer (s.run b device label verb surface)

/-! ## Watching changes nothing -/

/-- One operation does on a part of its state what another does on that part alone. -/
def Mirrors (get : τ → σ) (x : EStateM ε τ α) (y : EStateM ε σ α) : Prop :=
  ∀ t, answer (x t) = answer (y (get t)) ∧ get (after (x t)) = after (y (get t))

namespace Mirrors

variable {get : τ → σ}

/-- An answer that asks nothing is the same in both. -/
lemma pure (a : α) : Mirrors get (pure a : EStateM ε τ α) (pure a) :=
  fun _ => ⟨rfl, rfl⟩

/-- A failure that asks nothing is the same in both. -/
lemma throw (e : ε) : Mirrors get (throw e : EStateM ε τ α) (throw e) :=
  fun _ => ⟨rfl, rfl⟩

/-- Operations that mirror each other may be put in a row. -/
lemma bind {x : EStateM ε τ α} {y : EStateM ε σ α} {f : α → EStateM ε τ β} {g : α → EStateM ε σ β}
    (first : Mirrors get x y) (next : ∀ a, Mirrors get (f a) (g a)) :
    Mirrors get (x >>= f) (y >>= g) := by
  intro t
  obtain ⟨sameAnswer, sameState⟩ := first t
  rw [Outcome.bind_apply, Outcome.bind_apply]
  cases hx : x t with
  | ok a t' =>
    rw [hx] at sameAnswer sameState
    rw [eq_ok_of_answer sameAnswer.symm, ← sameState]
    exact next a t'
  | error e t' =>
    rw [hx] at sameAnswer sameState
    rw [eq_error_of_answer sameAnswer.symm, ← sameState]
    exact ⟨rfl, rfl⟩

/-- The sort of failure may be changed on both sides. -/
lemma adaptExcept {ε' : Type} {x : EStateM ε τ α} {y : EStateM ε σ α} (f : ε → ε')
    (same : Mirrors get x y) : Mirrors get (x.adaptExcept f) (y.adaptExcept f) := by
  intro t
  obtain ⟨sameAnswer, sameState⟩ := same t
  rw [Outcome.adaptExcept_apply, Outcome.adaptExcept_apply]
  cases hx : x t with
  | ok a t' =>
    rw [hx] at sameAnswer sameState
    rw [eq_ok_of_answer sameAnswer.symm, ← sameState]
    exact ⟨rfl, rfl⟩
  | error e t' =>
    rw [hx] at sameAnswer sameState
    rw [eq_error_of_answer sameAnswer.symm, ← sameState]
    exact ⟨rfl, rfl⟩

end Mirrors

/-- A watched surface treats a step as the surface does. -/
lemma Backend.mirrors_apply (b : Backend σ) (step : Step) :
    Mirrors Watched.surface (b.watch.apply step) (b.apply step) := by
  intro w
  simp only [watch]
  cases b.apply step w.surface <;> exact ⟨rfl, rfl⟩

/-- Sending steps to a watched surface has the same results. -/
lemma Plan.mirrors_send (b : Backend σ) (label : String) (count : Nat) (steps : List Step) :
    Mirrors Watched.surface (send b.watch label count steps) (send b label count steps) := by
  induction steps generalizing count with
  | nil => exact .pure ()
  | cons step rest ih =>
    exact .bind ((b.mirrors_apply step).adaptExcept _) fun _ => ih (count + 1)

/-- Performing a plan on a watched surface has the same results. -/
lemma Plan.mirrors_perform (b : Backend σ) (label : String) (p : Plan) :
    Mirrors Watched.surface (p.perform b.watch label) (p.perform b label) := by
  refine .bind (mirrors_send b label 0 p.steps) fun _ => ?_
  cases p.fault with
  | none => exact .pure ()
  | some cause => exact .throw _

/-- Watching a run of a sequence changes neither its answer nor the control surface. -/
theorem Sequence.run_watch (s : Sequence) (b : Backend σ) (device : Option String) (label : String)
    (verb : Option Verb) :
    Mirrors Watched.surface (s.run b.watch device label verb) (s.run b device label verb) := by
  rw [run_eq_perform, run_eq_perform]
  exact Plan.mirrors_perform b label _

/-! ## What is put on record -/

/-- A step that the surface accepts is recorded as accepted. -/
lemma Backend.watch_accepts {b : Backend σ} {step : Step} {w : Watched σ} {s : σ}
    (accepted : b.apply step w.surface = .ok () s) :
    b.watch.apply step w = .ok () ⟨s, w.exchanges ++ [.accepted step]⟩ := by
  simp only [watch, accepted]

/-- A step that the surface refuses is recorded with the cause. -/
lemma Backend.watch_refuses {b : Backend σ} {step : Step} {w : Watched σ} {cause : ControlFault}
    {s : σ} (refused : b.apply step w.surface = .error cause s) :
    b.watch.apply step w = .error cause ⟨s, w.exchanges ++ [.refused step cause]⟩ := by
  simp only [watch, refused]

namespace Plan

variable {b : Backend σ} {label : String}

/-- Sending goes on after an accepted step. -/
lemma send_cons_accepted {step : Step} {rest : List Step} {count : Nat} {w : Watched σ} {s : σ}
    (accepted : b.apply step w.surface = .ok () s) :
    send b.watch label count (step :: rest) w =
      send b.watch label (count + 1) rest ⟨s, w.exchanges ++ [.accepted step]⟩ := by
  rw [send, Sequence.sendStep, Outcome.bind_apply, Outcome.adaptExcept_apply,
    Backend.watch_accepts accepted]

/-- Sending ends with a refused step. -/
lemma send_cons_refused {step : Step} {rest : List Step} {count : Nat} {w : Watched σ}
    {cause : ControlFault} {s : σ} (refused : b.apply step w.surface = .error cause s) :
    send b.watch label count (step :: rest) w =
      .error (.sequence label count cause) ⟨s, w.exchanges ++ [.refused step cause]⟩ := by
  rw [send, Sequence.sendStep, Outcome.bind_apply, Outcome.adaptExcept_apply,
    Backend.watch_refuses refused]

end Plan

end UseCase
