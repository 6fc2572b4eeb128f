import Mathlib.Tactic.Common
import UseCase.Plan

/-!
# Running a sequence is performing its plan

A run meets the actions of a sequence one by one and follows each call as it comes; a plan is
expanded first, without a control surface, and sent afterwards. The main statement `run_eq_perform`
says that the two are the same operation on every control surface: the steps go out in the same
order with the same numbers, and a call that cannot be made stops both at the same place.

The proof is an induction on the depth that is left for calls and, inside it, on the sequence. It is
stated for runs that start after any number of steps, since a call goes on counting where its
caller was.
-/

namespace UseCase

namespace Plan

variable {σ : Type} (b : Backend σ) (label : String)

/-- Performs a plan after `count` steps; answers with the number of steps by its end. -/
def performFrom (count : Nat) (p : Plan) : EStateM Fault σ Nat := do
  send b label count p.steps
  match p.fault with
  | none => pure (count + p.steps.length)
  | some cause => throw (.configuration (.call label cause))

/-- Sending two lists of steps is sending the first and then, with its count, the second. -/
lemma send_append (count : Nat) (first second : List Step) :
    send b label count (first ++ second) = (do
      send b label count first
      send b label (count + first.length) second) := by
  induction first generalizing count with
  | nil => simp [send]
  | cons step rest ih =>
    rw [List.cons_append, send, ih, send, List.length_cons, bind_assoc]
    rw [show count + 1 + rest.length = count + (rest.length + 1) by omega]

/-- A plan that is done sends no more. -/
@[simp] lemma performFrom_done (count : Nat) : performFrom b label count done = pure count := by
  simp [performFrom, done, send]

/-- A plan that stops tells which call it was that failed. -/
@[simp] lemma performFrom_stop (count : Nat) (cause : CallFault) :
    performFrom b label count (stop cause) = throw (.configuration (.call label cause)) := by
  simp [performFrom, stop, send]

/-- A plan sends its first step, and then the others. -/
lemma performFrom_cons (count : Nat) (step : Step) (p : Plan) :
    performFrom b label count (cons step p) = (do
      Sequence.sendStep b label count step
      performFrom b label (count + 1) p) := by
  have total : count + (p.steps.length + 1) = count + 1 + p.steps.length := by omega
  simp only [performFrom, cons, send, List.length_cons, total, bind_assoc]

/-- Of two plans in a row the second is performed only if the first comes to its end. -/
lemma performFrom_andThen (count : Nat) (p q : Plan) :
    performFrom b label count (p.andThen q) = (do
      let reached ← performFrom b label count p
      performFrom b label reached q) := by
  obtain ⟨steps, fault⟩ := p
  cases fault with
  | some cause =>
    simp only [andThen, performFrom, bind_assoc]
    rfl
  | none =>
    have total :
        count + (steps.length + q.steps.length) = count + steps.length + q.steps.length := by
      omega
    simp only [andThen, performFrom, send_append, List.length_append, total, bind_assoc, pure_bind]

/-- A plan is performed from the start of the count. -/
lemma perform_eq (p : Plan) :
    p.perform b label = (do let _ ← performFrom b label 0 p) := by
  obtain ⟨steps, fault⟩ := p
  cases fault with
  | none => simp [perform, performFrom]
  | some cause =>
    simp only [perform, performFrom, bind_assoc]
    rfl

end Plan

namespace Sequence

variable {σ : Type} (b : Backend σ) (label : String)

/-- The way of running that performs what `expand` plans. -/
def performer (expand : Option String → Sequence → Plan) : Runner σ :=
  fun device count s => Plan.performFrom b label count (expand device s)

/-- A call is run as it is planned, if the called sequences are. -/
lemma runCall_eq (expand : Option (Option String → Sequence → Plan)) (verb : Option Verb)
    (device : Option String) (count : Nat) (kind : Kind) (name : String) (phase : Phase) :
    runCall label (expand.map (performer b label)) verb device count kind name phase =
      Plan.performFrom b label count (planCall expand verb device kind name phase) := by
  cases expand with
  | none => simp [runCall, planCall]
  | some plan =>
    simp only [runCall, planCall, Option.map_some]
    cases callee verb kind name phase with
    | error cause => simp
    | ok s => rfl

/-- A sequence is run as it is planned, if the sequences that it calls are. -/
lemma runWith_eq (expand : Option (Option String → Sequence → Plan)) (verb : Option Verb)
    (device : Option String) (count : Nat) (s : Sequence) :
    runWith b label (expand.map (performer b label)) verb device count s =
      Plan.performFrom b label count (planWith expand verb device s) := by
  induction s generalizing device count with
  | nil => simp [runWith, planWith]
  | cons action rest ih =>
    cases action with
    | controlDevice name => rw [runWith, planWith, ih]
    | write control value => rw [runWith, planWith, Plan.performFrom_cons, ih]
    | command text => rw [runWith, planWith, Plan.performFrom_cons, ih]
    | pause duration => rw [runWith, planWith, Plan.performFrom_cons, ih]
    | call kind name phase =>
      rw [runWith, planWith, Plan.performFrom_andThen, runCall_eq]
      simp only [ih]

/-- At every depth a sequence is run as it is planned. -/
lemma runAt_eq (verb : Option Verb) (depth : Nat) :
    runAt b label verb depth = performer b label (planAt verb depth) := by
  induction depth with
  | zero =>
    funext device count s
    exact runWith_eq b label none verb device count s
  | succ depth ih =>
    funext device count s
    rw [runAt, ih]
    exact runWith_eq b label (some (planAt verb depth)) verb device count s

/-- Running a sequence is performing its plan. -/
theorem run_eq_perform (verb : Option Verb) (device : Option String) (s : Sequence) :
    s.run b device label verb = (s.plan verb device).perform b label := by
  rw [run, runAt_eq, Plan.perform_eq]
  rfl

end Sequence

end UseCase
