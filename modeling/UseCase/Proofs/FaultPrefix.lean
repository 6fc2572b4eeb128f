import Mathlib.Data.List.TakeDrop
import UseCase.Proofs.Exchange
import UseCase.Sample

/-!
# Where a run stops

A run on a control surface that accepts everything shows which steps a sequence sends and with which
answer it ends. On a control surface that accepts or refuses each step for what it is, the same
steps go out in the same order up to the first one that is refused, and none after that.

`run_until_refusal` is the main statement. It compares two runs of one sequence, so its proof passes
through the plan, which both runs share: sending the steps of a plan is followed until the first
refusal by an induction on the steps that came before it.
-/

namespace UseCase

variable {σ : Type}

/-- A control surface that accepts a step exactly if the step satisfies a predicate. -/
def Backend.DecidesBy (b : Backend σ) (accepts : Step → Bool) : Prop :=
  ∀ step surface, accepts step = true ↔ ∃ s, b.apply step surface = .ok () s

/-- The answer of a plan whose steps are all accepted. -/
def Plan.answer (label : String) (p : Plan) : Except Fault Unit :=
  match p.fault with
  | none => .ok ()
  | some cause => .error (.configuration (.call label cause))

namespace Backend.DecidesBy

variable {b : Backend σ} {accepts : Step → Bool} (decides : b.DecidesBy accepts)
include decides

/-- A step that satisfies the predicate is accepted. -/
lemma accepted {step : Step} (good : accepts step = true) (surface : σ) :
    ∃ s, b.apply step surface = .ok () s :=
  (decides step surface).mp good

/-- A step that does not satisfy the predicate is refused. -/
lemma refused {step : Step} (bad : accepts step = false) (surface : σ) :
    ∃ cause s, b.apply step surface = .error cause s := by
  cases found : b.apply step surface with
  | ok u s =>
    have good := (decides step surface).mpr ⟨s, found⟩
    rw [bad] at good
    cases good
  | error cause s => exact ⟨cause, s, rfl⟩

/-- Steps that all satisfy the predicate are all sent and accepted. -/
lemma send_accepted (label : String) {steps : List Step}
    (good : ∀ step ∈ steps, accepts step = true) (count : Nat) (w : Watched σ) :
    ∃ s, Plan.send b.watch label count steps w =
      .ok () ⟨s, w.exchanges ++ steps.map .accepted⟩ := by
  induction steps generalizing count w with
  | nil => exact ⟨w.surface, by simp [Plan.send]⟩
  | cons step rest ih =>
    obtain ⟨s, taken⟩ := decides.accepted (good step List.mem_cons_self) w.surface
    obtain ⟨s', sent⟩ := ih (fun t ht => good t (List.mem_cons_of_mem _ ht)) (count + 1)
      ⟨s, w.exchanges ++ [.accepted step]⟩
    refine ⟨s', ?_⟩
    rw [Plan.send_cons_accepted taken, sent]
    simp

/-- The first step that does not satisfy the predicate is the last one to be sent; its number is
the number of steps before it. -/
lemma send_refused (label : String) {before : List Step} (rest : List Step) {step : Step}
    (good : ∀ t ∈ before, accepts t = true) (bad : accepts step = false) (count : Nat)
    (w : Watched σ) :
    ∃ cause s s', b.apply step s = .error cause s' ∧
      Plan.send b.watch label count (before ++ step :: rest) w =
        .error (.sequence label (count + before.length) cause)
          ⟨s', w.exchanges ++ before.map .accepted ++ [.refused step cause]⟩ := by
  induction before generalizing count w with
  | nil =>
    obtain ⟨cause, s, refused⟩ := decides.refused bad w.surface
    refine ⟨cause, w.surface, s, refused, ?_⟩
    rw [List.nil_append, Plan.send_cons_refused refused]
    simp
  | cons first others ih =>
    obtain ⟨s, taken⟩ := decides.accepted (good first List.mem_cons_self) w.surface
    obtain ⟨cause, s', s'', refused, sent⟩ :=
      ih (fun t ht => good t (List.mem_cons_of_mem _ ht)) (count + 1)
        ⟨s, w.exchanges ++ [.accepted first]⟩
    refine ⟨cause, s', s'', refused, ?_⟩
    rw [List.cons_append, Plan.send_cons_accepted taken, sent]
    have number : count + 1 + others.length = count + (others.length + 1) := by omega
    simp [number]

end Backend.DecidesBy

/-- A control surface that judges by a reason against a step accepts the steps without one. -/
lemma Backend.judge_decidesBy (refusal? : Step → Option ControlFault) :
    (judge refusal?).DecidesBy fun step => (refusal? step).isNone := by
  intro step surface
  simp only [judge]
  cases refusal? step with
  | none => exact ⟨fun _ => ⟨surface, rfl⟩, fun _ => rfl⟩
  | some cause => simp

/-- A control surface that accepts everything decides by the predicate that always holds. -/
lemma Backend.acceptAll_decidesBy : acceptAll.DecidesBy fun _ => true :=
  judge_decidesBy fun _ => none

namespace Sequence

variable (s : Sequence) (device : Option String) (label : String) (verb : Option Verb)

/-- An account on a surface is what performing the plan under watch comes to. -/
lemma account_eq (b : Backend σ) (surface : σ) :
    s.account b device label verb surface =
      (let r := (s.plan verb device).perform b.watch label ⟨surface, []⟩
       ⟨(after r).exchanges, UseCase.answer r⟩) := by
  have same := (s.run_watch b device label verb ⟨surface, []⟩).1
  rw [account, ← same, run_eq_perform]

/-- If a control surface accepts all steps of the plan, they are sent and the plan is followed to
its end. -/
lemma account_accepted {b : Backend σ} {accepts : Step → Bool} (decides : b.DecidesBy accepts)
    (good : ∀ step ∈ (s.plan verb device).steps, accepts step = true) (surface : σ) :
    s.account b device label verb surface =
      ⟨(s.plan verb device).steps.map .accepted, (s.plan verb device).answer label⟩ := by
  obtain ⟨surface', sent⟩ := decides.send_accepted label good 0 ⟨surface, []⟩
  rw [account_eq, Plan.perform, Outcome.bind_ok sent, Plan.answer]
  cases (s.plan verb device).fault <;> simp

/-- If a step of the plan is the first to be refused, it is the last to be sent. -/
lemma account_refused {b : Backend σ} {accepts : Step → Bool} (decides : b.DecidesBy accepts)
    {before rest : List Step} {step : Step}
    (split : (s.plan verb device).steps = before ++ step :: rest)
    (good : ∀ t ∈ before, accepts t = true) (bad : accepts step = false) (surface : σ) :
    ∃ cause found left, b.apply step found = .error cause left ∧
      s.account b device label verb surface =
        ⟨before.map .accepted ++ [.refused step cause],
          .error (.sequence label before.length cause)⟩ := by
  obtain ⟨cause, found, left, refused, sent⟩ :=
    decides.send_refused label rest good bad 0 ⟨surface, []⟩
  refine ⟨cause, found, left, refused, ?_⟩
  rw [account_eq, Plan.perform, split, Outcome.bind_error sent]
  simp

/-- On a surface that accepts everything, all steps of a plan are accepted, and the answer is that
of the plan. -/
lemma account_acceptAll :
    s.account .acceptAll device label verb () =
      ⟨(s.plan verb device).steps.map .accepted, (s.plan verb device).answer label⟩ :=
  s.account_accepted device label verb Backend.acceptAll_decidesBy (fun _ _ => rfl) ()

/-- Accepted steps are the steps that were sent. -/
@[simp] lemma steps_map_accepted (steps : List Step) :
    (steps.map Exchange.accepted).map Exchange.step = steps := by
  simp [Exchange.accepted, Function.comp_def]

/-- Let `steps` be what a sequence sends to a control surface that accepts everything. A surface
that decides about each step by itself is sent exactly these, with the same answer, if it accepts
them all. Otherwise it accepts those before the first that it refuses, is given no other after that,
and the answer names the sequence, the number of the refused step over all calls, and its reason. -/
theorem run_until_refusal {b : Backend σ} {accepts : Step → Bool} (decides : b.DecidesBy accepts)
    (surface : σ) :
    let free := s.account .acceptAll device label verb ()
    let steps := free.exchanges.map Exchange.step
    let told := s.account b device label verb surface
    free.exchanges = steps.map .accepted ∧
    (free.answer = .ok () ∨ ∃ defect, free.answer = .error (.configuration defect)) ∧
    ((∀ step ∈ steps, accepts step = true) → told = ⟨steps.map .accepted, free.answer⟩) ∧
    ∀ k step, steps[k]? = some step → accepts step = false →
      (∀ t ∈ steps.take k, accepts t = true) →
      ∃ cause found left, b.apply step found = .error cause left ∧
        told = ⟨(steps.take k).map .accepted ++ [.refused step cause],
          .error (.sequence label k cause)⟩ := by
  intro free steps told
  have known : free = _ := s.account_acceptAll device label verb
  have planned : steps = (s.plan verb device).steps := by
    simp only [steps, known, steps_map_accepted]
  refine ⟨?_, ?_, ?_, ?_⟩
  · rw [planned, known]
  · rw [known, Plan.answer]
    cases (s.plan verb device).fault with
    | none => exact .inl rfl
    | some cause => exact .inr ⟨_, rfl⟩
  · intro good
    rw [planned] at good ⊢
    rw [known]
    exact s.account_accepted device label verb decides good surface
  · intro k step found bad good
    rw [planned] at found good ⊢
    obtain ⟨inside, rfl⟩ := List.getElem?_eq_some_iff.mp found
    -- Calls were unfolded in the plan, so the number of a step is its place in one flat list.
    have split := (List.take_append_drop k (s.plan verb device).steps).symm
    rw [List.drop_eq_getElem_cons inside] at split
    have count : ((s.plan verb device).steps.take k).length = k :=
      List.length_take_of_le (Nat.le_of_lt inside)
    have stops := s.account_refused device label verb decides split good bad surface
    rwa [count] at stops

/-- A surface without the control `Balance`. -/
def withoutBalance : Step → Option ControlFault
  | .set _ "Balance" _ => some (.rejected "Balance" "no such control")
  | _ => none

/-- A call counts the steps that it sends: the third step of this run is the second of its caller.
-/
theorem refusal_counts_nested_steps :
    (Backend.judge withoutBalance).DecidesBy (fun step => (withoutBalance step).isNone) ∧
    ∃ cause found left,
      (Backend.judge withoutBalance).apply (.set none "Balance" "0") found = .error cause left ∧
      account [.call .device "Speaker" .enable, .write "Volume" "1", .write "Balance" "0",
          .write "Mute" "0"] (.judge withoutBalance) none "trial" (some Sample.hifi) () =
        ⟨[.accepted (.set none "Speaker on" "1"), .accepted (.set none "Volume" "1"),
            .refused (.set none "Balance" "0") cause],
          .error (.sequence "trial" 2 cause)⟩ :=
  ⟨Backend.judge_decidesBy withoutBalance,
    (run_until_refusal _ none "trial" (some Sample.hifi)
      (Backend.judge_decidesBy withoutBalance) ()).2.2.2 2 (.set none "Balance" "0")
      (by rfl) (by rfl) (by decide)⟩

end Sequence

end UseCase
