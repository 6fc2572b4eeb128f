import Mathlib.Tactic.Common
import UseCase.Backend

/-!
# Outcomes of operations

An operation on a state ends with an answer and a state, whether it succeeds or fails. `answer` and
`after` take the two apart. The other lemmas say what the building blocks of operations do when they
are applied to a state, so that an operation can be carried out step by step inside a proof without
opening the monad again.
-/

namespace UseCase

variable {ε ε' σ τ α β : Type}

/-- The answer with which an operation ended. -/
def answer : EStateM.Result ε σ α → Except ε α
  | .ok a _ => .ok a
  | .error e _ => .error e

/-- The state in which an operation ended. -/
def after : EStateM.Result ε σ α → σ
  | .ok _ s => s
  | .error _ s => s

/-- The answer of a success is its value. -/
@[simp] lemma answer_ok (a : α) (s : σ) : answer (.ok a s : EStateM.Result ε σ α) = .ok a := rfl

/-- The answer of a failure is the failure. -/
@[simp] lemma answer_error (e : ε) (s : σ) :
    answer (.error e s : EStateM.Result ε σ α) = .error e := rfl

/-- After a success there is its state. -/
@[simp] lemma after_ok (a : α) (s : σ) : after (.ok a s : EStateM.Result ε σ α) = s := rfl

/-- After a failure there is its state, too. -/
@[simp] lemma after_error (e : ε) (s : σ) : after (.error e s : EStateM.Result ε σ α) = s := rfl

/-- A result is its answer together with its state, when it succeeds. -/
lemma eq_ok_of_answer {r : EStateM.Result ε σ α} {a : α} (h : answer r = .ok a) :
    r = .ok a (after r) := by
  cases r with
  | ok a' s => cases h; rfl
  | error e s => cases h

/-- A result is its answer together with its state, when it fails. -/
lemma eq_error_of_answer {r : EStateM.Result ε σ α} {e : ε} (h : answer r = .error e) :
    r = .error e (after r) := by
  cases r with
  | ok a s => cases h
  | error e' s => cases h; rfl

/-- What follows a success goes on with its value. -/
lemma ok_bind (a : α) (f : α → Except ε β) : (Except.ok a >>= f) = f a := rfl

/-- Nothing follows a failure. -/
lemma error_bind (e : ε) (f : α → Except ε β) : (Except.error e >>= f) = .error e := rfl

/-- One answer after another is good if both are. -/
lemma bind_eq_ok {x : Except ε α} {f : α → Except ε β} {r : β} :
    (x >>= f) = .ok r ↔ ∃ a, x = .ok a ∧ f a = .ok r := by
  cases x with
  | error e => exact iff_of_false (fun h => by cases h) fun ⟨a, h, _⟩ => by cases h
  | ok a => exact ⟨fun h => ⟨a, rfl, h⟩, fun ⟨a', h, h'⟩ => by cases h; exact h'⟩

/-- One answer after another is a failure if the first is one, or the second after a good first. -/
lemma bind_eq_error {x : Except ε α} {f : α → Except ε β} {e : ε} :
    (x >>= f) = .error e ↔ x = .error e ∨ ∃ a, x = .ok a ∧ f a = .error e := by
  cases x with
  | error e' =>
    refine ⟨fun h => .inl (by cases h; rfl), fun h => ?_⟩
    rcases h with h | ⟨a, h, -⟩
    · cases h; rfl
    · cases h
  | ok a =>
    refine ⟨fun h => .inr ⟨a, rfl, h⟩, fun h => ?_⟩
    rcases h with h | ⟨a', h, h'⟩
    · cases h
    · cases h; exact h'

namespace Outcome

/-- A value that is only given back leaves the state as it is. -/
@[simp] lemma pure_apply (a : α) (s : σ) : (pure a : EStateM ε σ α) s = .ok a s := rfl

/-- A failure that is only thrown leaves the state as it is. -/
@[simp] lemma throw_apply (e : ε) (s : σ) : (throw e : EStateM ε σ α) s = .error e s := rfl

/-- Asking for the state answers with it and leaves it. -/
@[simp] lemma get_apply (s : σ) : (get : EStateM ε σ σ) s = .ok s s := rfl

/-- A success that is lifted leaves the state as it is. -/
@[simp] lemma ofExcept_ok (a : α) (s : σ) :
    (ofExcept (.ok a : Except ε α) : EStateM ε σ α) s = .ok a s := rfl

/-- A failure that is lifted leaves the state as it is. -/
@[simp] lemma ofExcept_error (e : ε) (s : σ) :
    (ofExcept (.error e : Except ε α) : EStateM ε σ α) s = .error e s := rfl

/-- What follows an operation goes on from where a success has led. -/
lemma bind_apply (x : EStateM ε σ α) (f : α → EStateM ε σ β) (s : σ) :
    (x >>= f) s = match x s with
      | .ok a s => f a s
      | .error e s => .error e s := rfl

/-- After a success the rest is run. -/
lemma bind_ok {x : EStateM ε σ α} {f : α → EStateM ε σ β} {s s' : σ} {a : α}
    (h : x s = .ok a s') : (x >>= f) s = f a s' := by
  rw [bind_apply, h]

/-- After a failure the rest is not run. -/
lemma bind_error {x : EStateM ε σ α} {f : α → EStateM ε σ β} {s s' : σ} {e : ε}
    (h : x s = .error e s') : (x >>= f) s = .error e s' := by
  rw [bind_apply, h]

/-- Another sort of failure is the same operation. -/
lemma adaptExcept_apply (f : ε → ε') (x : EStateM ε σ α) (s : σ) :
    x.adaptExcept f s = match x s with
      | .ok a s => .ok a s
      | .error e s => .error (f e) s := by
  unfold EStateM.adaptExcept
  cases x s <;> rfl

/-- An operation on a part answers as it does on that part alone. -/
lemma answer_onPart (get : τ → σ) (set : τ → σ → τ) (x : EStateM ε σ α) (t : τ) :
    answer (onPart get set x t) = answer (x (get t)) := by
  unfold onPart
  cases x (get t) <;> rfl

/-- An operation on a part replaces that part by what became of it. -/
lemma after_onPart (get : τ → σ) (set : τ → σ → τ) (x : EStateM ε σ α) (t : τ) :
    after (onPart get set x t) = set t (after (x (get t))) := by
  unfold onPart
  cases x (get t) <;> rfl

end Outcome

end UseCase
