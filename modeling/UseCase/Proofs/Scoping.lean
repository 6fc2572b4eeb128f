import Mathlib.Tactic.Common
import UseCase.Proofs.Nesting

/-!
# The control device in force

A write goes to the control device that was chosen last before it in its own sequence, or else to
the one with which that sequence starts: the device in force at its call, or that of the card.
`Scoped` says so of the steps of a whole run. It looks at a sequence and its calls alone, and
carries no device from the end of a call on to what follows.

The main statement `call_keeps_device` says that the steps of a run are so scoped, and what a call
adds to the run of its caller: the steps of its own run, with the device in force at the call, and
nothing else. The plan of two sequences in a row is put together from their plans (`plan_append`),
and a plan without a fault is the same at every greater depth, so that a called sequence may be run
by itself.
-/

namespace UseCase

namespace Plan

variable {p q r : Plan}

/-- Plans in a row may be taken together as one likes. -/
lemma andThen_assoc : (p.andThen q).andThen r = p.andThen (q.andThen r) := by
  obtain ⟨steps, fault⟩ := p
  cases fault with
  | some cause => rfl
  | none =>
    obtain ⟨steps', fault'⟩ := q
    cases fault' with
    | some cause => rfl
    | none => simp only [andThen, List.append_assoc]

/-- A first step stays the first one when another plan follows. -/
lemma cons_andThen (step : Step) : (p.cons step).andThen q = (p.andThen q).cons step := by
  obtain ⟨steps, fault⟩ := p
  cases fault <;> rfl

/-- A plan that is done adds nothing. -/
lemma andThen_done : p.andThen done = p := by
  obtain ⟨steps, fault⟩ := p
  cases fault with
  | some cause => rfl
  | none => simp only [andThen, done, List.append_nil]

/-- Two plans in a row send the steps of both, unless the first fails. -/
lemma steps_andThen (whole : p.fault = none) : (p.andThen q).steps = p.steps ++ q.steps := by
  rw [andThen, whole]

end Plan

/-- The control device that an action chooses. -/
def Action.chosen? : Action → Option String
  | .controlDevice name => some name
  | _ => none

namespace Sequence

variable {verb : Option Verb} {device : Option String} {s p q : Sequence}

/-- The control device in force after a sequence that starts with `device`: the one that the
sequence itself chose last, if it chose any. -/
def deviceAfter (device : Option String) (s : Sequence) : Option String :=
  (s.filterMap Action.chosen?).getLast?.or device

/-- The steps of a sequence that starts with a control device, if every write goes to the device in
force after the actions before it in its own sequence, and a call starts with the device in force
there. -/
inductive Scoped (verb : Option Verb) : Option String → Sequence → List Step → Prop
  | nil {device : Option String} : Scoped verb device [] []
  | controlDevice {device : Option String} {s : Sequence} {steps : List Step} {name : String} :
    Scoped verb device s steps → Scoped verb device (s ++ [.controlDevice name]) steps
  | write {device : Option String} {s : Sequence} {steps : List Step} {control value : String} :
    Scoped verb device s steps → Scoped verb device (s ++ [.write control value])
      (steps ++ [.set (deviceAfter device s) control value])
  | command {device : Option String} {s : Sequence} {steps : List Step} {text : String} :
    Scoped verb device s steps →
      Scoped verb device (s ++ [.command text]) (steps ++ [.execute text])
  | pause {device : Option String} {s : Sequence} {steps : List Step} {duration : Nat} :
    Scoped verb device s steps →
      Scoped verb device (s ++ [.pause duration]) (steps ++ [.sleep duration])
  | call {device : Option String} {s body : Sequence} {steps nested : List Step} {call : Call} :
    Scoped verb device s steps → call.body? verb = some body →
      Scoped verb (deviceAfter device s) body nested →
      Scoped verb device (s ++ [call.action]) (steps ++ nested)

/-! ## Plans of parts -/

/-- Actions go on with the device that one of them chooses. -/
lemma deviceAfter_controlDevice (name : String) :
    deviceAfter device (.controlDevice name :: s) = deviceAfter (some name) s := by
  have chosen : Action.chosen? (.controlDevice name) = some name := rfl
  rw [deviceAfter, deviceAfter, List.filterMap_cons_some chosen, List.getLast?_cons]
  cases (s.filterMap Action.chosen?).getLast? <;> rfl

/-- Other actions leave the device as it is. -/
lemma deviceAfter_cons {action : Action} (other : action.chosen? = none) :
    deviceAfter device (action :: s) = deviceAfter device s := by
  rw [deviceAfter, deviceAfter, List.filterMap_cons_none other]

/-- The plan of two sequences in a row is that of the first and then that of the second, which
starts with the device in force after the first. -/
lemma planWith_append (nested : Option (Option String → Sequence → Plan)) (verb : Option Verb)
    (device : Option String) (p q : Sequence) :
    planWith nested verb device (p ++ q) =
      (planWith nested verb device p).andThen (planWith nested verb (deviceAfter device p) q) := by
  induction p generalizing device with
  | nil => rfl
  | cons action rest ih =>
    rw [List.cons_append]
    cases action with
    | controlDevice name => rw [planWith, planWith, ih, deviceAfter_controlDevice]
    | write control value => rw [planWith, planWith, ih, deviceAfter_cons rfl, Plan.cons_andThen]
    | command text => rw [planWith, planWith, ih, deviceAfter_cons rfl, Plan.cons_andThen]
    | pause duration => rw [planWith, planWith, ih, deviceAfter_cons rfl, Plan.cons_andThen]
    | call kind name phase =>
      rw [planWith, planWith, ih, deviceAfter_cons rfl, Plan.andThen_assoc]

/-- Two ways to plan calls that agree on the calls of a sequence give it the same plan. -/
lemma planWith_congr {nested nested' : Option (Option String → Sequence → Plan)}
    (same : ∀ call : Call, call.action ∈ s → ∀ device,
      planCall nested verb device call.kind call.name call.phase =
        planCall nested' verb device call.kind call.name call.phase)
    (device : Option String) :
    planWith nested verb device s = planWith nested' verb device s := by
  induction s generalizing device with
  | nil => rfl
  | cons action rest ih =>
    have later := ih fun call member => same call (List.mem_cons_of_mem action member)
    cases action with
    | controlDevice name => rw [planWith, planWith, later]
    | write control value => rw [planWith, planWith, later]
    | command text => rw [planWith, planWith, later]
    | pause duration => rw [planWith, planWith, later]
    | call kind name phase =>
      rw [planWith, planWith, later, same ⟨kind, name, phase⟩ List.mem_cons_self]

/-- If all calls have sequences within a depth, a greater depth makes no difference. -/
lemma planAt_succ {depth : Nat} (within : Within verb depth s) (device : Option String) :
    planAt verb (depth + 1) device s = planAt verb depth device s := by
  induction depth generalizing device s with
  | zero => exact planWith_congr (fun call member => absurd member (within call)) device
  | succ depth ih =>
    refine planWith_congr (fun call member device => ?_) device
    obtain ⟨body, found, deeper⟩ := within call member
    simp only [planCall, Call.callee_of_body? found, ih deeper]

/-- If what a call adds is scoped then so are the steps of a plan without a fault. -/
lemma planWith_scoped {nested : Option (Option String → Sequence → Plan)}
    (calls : ∀ device (call : Call),
      (planCall nested verb device call.kind call.name call.phase).fault = none →
        ∃ body, call.body? verb = some body ∧ Scoped verb device body
          (planCall nested verb device call.kind call.name call.phase).steps)
    (whole : (planWith nested verb device s).fault = none) :
    Scoped verb device s (planWith nested verb device s).steps := by
  -- From the end of the sequence, as the device in force depends on what comes before.
  induction s using List.reverseRecOn with
  | nil => exact .nil
  | append_singleton before action ih =>
    rw [planWith_append] at whole ⊢
    obtain ⟨begun, here⟩ := Plan.fault_andThen.mp whole
    rw [Plan.steps_andThen begun]
    have sent := ih begun
    cases action with
    | controlDevice name =>
      have silent : (planWith nested verb (deviceAfter device before)
          [.controlDevice name]).steps = [] := rfl
      rw [silent, List.append_nil]
      exact .controlDevice sent
    | write control value => exact .write sent
    | command text => exact .command sent
    | pause duration => exact .pause sent
    | call kind name phase =>
      rw [planWith, planWith, Plan.andThen_done] at here ⊢
      obtain ⟨body, found, inner⟩ := calls _ ⟨kind, name, phase⟩ here
      exact .call sent found inner

/-- At every depth the steps of a plan without a fault are scoped. -/
lemma planAt_scoped {depth : Nat} (whole : (planAt verb depth device s).fault = none) :
    Scoped verb device s (planAt verb depth device s).steps := by
  induction depth generalizing device s with
  | zero => exact planWith_scoped (fun _ _ none => by cases none) whole
  | succ depth ih =>
    refine planWith_scoped (fun device call inner => ?_) whole
    rw [planCall] at inner ⊢
    cases found : call.body? verb with
    | none =>
      obtain ⟨cause, failed⟩ := Call.callee_of_unknown found
      rw [failed] at inner
      cases inner
    | some body =>
      simp only [Call.callee_of_body? found] at inner ⊢
      exact ⟨body, rfl, ih inner⟩

/-- Sequences in a row are planned in a row, the second with the device that the first has left. -/
lemma plan_append (verb : Option Verb) (device : Option String) (p q : Sequence) :
    (p ++ q).plan verb device =
      (p.plan verb device).andThen (q.plan verb (deviceAfter device p)) :=
  planWith_append _ verb device p q

/-- The plan of a call and what follows, if it has no fault, is that of the called sequence and
that of the rest, both of which start with the same device. -/
lemma plan_call {call : Call} (whole : (plan verb device (call.action :: q)).fault = none) :
    ∃ body, call.body? verb = some body ∧ (body.plan verb device).fault = none ∧
      (q.plan verb device).fault = none ∧
      (plan verb device (call.action :: q)).steps =
        (body.plan verb device).steps ++ (q.plan verb device).steps := by
  have parts : plan verb device (call.action :: q) =
      (planCall (some (planAt verb 7)) verb device call.kind call.name call.phase).andThen
        (q.plan verb device) := rfl
  rw [parts] at whole ⊢
  obtain ⟨inner, last⟩ := Plan.fault_andThen.mp whole
  cases found : call.body? verb with
  | none =>
    obtain ⟨cause, failed⟩ := Call.callee_of_unknown found
    rw [planCall, failed] at inner
    cases inner
  | some body =>
    rw [Plan.steps_andThen inner]
    simp only [planCall, Call.callee_of_body? found] at inner ⊢
    -- By itself the called sequence has one depth more, which it does not need.
    have alone : body.plan verb device = planAt verb 7 device body :=
      planAt_succ ((planAt_fault_iff verb 7 device body).mp inner) device
    exact ⟨body, rfl, alone ▸ inner, last, by rw [alone]⟩

/-! ## Runs -/

/-- On a control surface that accepts everything a run whose plan has no fault sends its steps. -/
lemma account_of_fault_none {σ : Type} {b : Backend σ} (accepting : b.DecidesBy fun _ => true)
    (whole : (s.plan verb device).fault = none) (label : String) (surface : σ) :
    s.account b device label verb surface =
      ⟨(s.plan verb device).steps.map .accepted, .ok ()⟩ := by
  rw [account_of_accepting accepting, Plan.answer, whole]

/-- On a control surface that accepts everything two sequences in a row, whose plans have no faults,
send the steps of both. -/
lemma account_append {σ : Type} {b : Backend σ} (accepting : b.DecidesBy fun _ => true)
    (first : (p.plan verb device).fault = none)
    (second : (q.plan verb (deviceAfter device p)).fault = none) (label : String) (surface : σ) :
    (p ++ q).account b device label verb surface =
      ⟨((p.plan verb device).steps ++ (q.plan verb (deviceAfter device p)).steps).map .accepted,
        .ok ()⟩ := by
  have whole : ((p ++ q).plan verb device).fault = none := by
    rw [plan_append]
    exact Plan.fault_andThen.mpr ⟨first, second⟩
  rw [account_of_fault_none accepting whole, plan_append, Plan.steps_andThen first]

/-- On a control surface that accepts everything a run that succeeds has a plan without a fault. -/
lemma fault_of_account {σ : Type} {b : Backend σ} (accepting : b.DecidesBy fun _ => true)
    {label : String} {surface : σ}
    (done : (s.account b device label verb surface).answer = .ok ()) :
    (s.plan verb device).fault = none := by
  rw [account_of_accepting accepting, Plan.answer] at done
  cases fault : (s.plan verb device).fault with
  | none => rfl
  | some cause =>
    rw [fault] at done
    cases done

/-- On a control surface that accepts everything the steps of every run that succeeds are scoped: a
write goes to the device that was chosen last before it in its own sequence, or else to the one with
which that sequence started. A call in the middle of such a run adds the steps of its own run, which
starts with the device in force there, and nothing else: what comes before and after it is sent as
if the call were not there. -/
theorem call_keeps_device {σ : Type} {b : Backend σ} (accepting : b.DecidesBy fun _ => true)
    (device : Option String) (label : String) (verb : Option Verb) :
    (∀ (s : Sequence) (surface : σ), (s.account b device label verb surface).answer = .ok () →
      ∃ steps, s.account b device label verb surface = ⟨steps.map .accepted, .ok ()⟩ ∧
        Scoped verb device s steps) ∧
    ∀ (p q : Sequence) (call : Call) (surface : σ),
      ((p ++ call.action :: q).account b device label verb surface).answer = .ok () →
      ∃ (body : Sequence) (before nested rest : List Step), call.body? verb = some body ∧
        ∀ (label : String) (surface : σ),
          p.account b device label verb surface = ⟨before.map .accepted, .ok ()⟩ ∧
          body.account b (deviceAfter device p) label verb surface =
            ⟨nested.map .accepted, .ok ()⟩ ∧
          (p ++ q).account b device label verb surface =
            ⟨(before ++ rest).map .accepted, .ok ()⟩ ∧
          (p ++ call.action :: q).account b device label verb surface =
            ⟨(before ++ (nested ++ rest)).map .accepted, .ok ()⟩ := by
  refine ⟨fun s surface done => ?_, fun p q call surface done => ?_⟩
  · have whole := fault_of_account accepting done
    exact ⟨_, account_of_fault_none accepting whole label surface, planAt_scoped whole⟩
  · have whole := fault_of_account accepting done
    rw [plan_append] at whole
    obtain ⟨first, later⟩ := Plan.fault_andThen.mp whole
    obtain ⟨body, found, inner, last, sent⟩ := plan_call later
    refine ⟨body, _, _, (q.plan verb (deviceAfter device p)).steps, found,
      fun label surface => ⟨account_of_fault_none accepting first label surface,
        account_of_fault_none accepting inner label surface,
        account_append accepting first last label surface, ?_⟩⟩
    rw [← sent]
    exact account_append accepting first later label surface

/-- A verb with a device that writes to a control device of its own, and a modifier that enables it.
-/
def studio : Verb :=
  { Verb.plain "Studio" with
    devices := [{ Entity.plain .device "Amplifier" with
      enable := [.write "Power" "1", .controlDevice "hw:9", .write "Gain" "5"] }]
    modifiers := [{ Entity.plain .modifier "Monitor" with
      enable := [.controlDevice "hw:2", .call .device "Amplifier" .enable, .write "Mix" "1"] }] }

/-- Through two calls each sequence goes on writing to its own device. -/
theorem studio_keeps_devices :
    let before : Sequence := [.controlDevice "hw:1", .write "Mute" "1"]
    let monitor : Call := ⟨.modifier, "Monitor", .enable⟩
    let whole : Sequence := before ++ monitor.action :: [.write "Mute" "0"]
    let steps : List Step := [.set (some "hw:1") "Mute" "1", .set (some "hw:2") "Power" "1",
      .set (some "hw:9") "Gain" "5", .set (some "hw:2") "Mix" "1", .set (some "hw:1") "Mute" "0"]
    Backend.acceptAll.DecidesBy (fun _ => true) ∧
      whole.account .acceptAll (some "hw:0") "trial" (some studio) () =
        ⟨steps.map .accepted, .ok ()⟩ ∧
      Scoped (some studio) (some "hw:0") whole steps ∧
      ∃ (body : Sequence) (sent nested rest : List Step),
        monitor.body? (some studio) = some body ∧
        body.account .acceptAll (some "hw:1") "alone" (some studio) () =
          ⟨nested.map .accepted, .ok ()⟩ ∧
        steps = sent ++ (nested ++ rest) := by
  intro before monitor whole steps
  have accepting := Backend.acceptAll_decidesBy
  have done : whole.account .acceptAll (some "hw:0") "trial" (some studio) () =
      ⟨steps.map .accepted, .ok ()⟩ := by rfl
  have same {other : List Step}
      (told : whole.account .acceptAll (some "hw:0") "trial" (some studio) () =
        ⟨other.map .accepted, .ok ()⟩) : steps = other := by
    have records := congrArg Account.exchanges (done.symm.trans told)
    rw [← steps_map_accepted steps, ← steps_map_accepted other]
    exact congrArg (List.map Exchange.step) records
  obtain ⟨alone, called⟩ := call_keeps_device accepting (some "hw:0") "trial" (some studio)
  obtain ⟨steps', told, sent⟩ := alone whole () (by rfl)
  obtain ⟨body, before', nested, rest, found, parts⟩ :=
    called before [.write "Mute" "0"] monitor () (by rfl)
  refine ⟨accepting, done, ?_, body, before', nested, rest, found, (parts "alone" ()).2.1, ?_⟩
  · rwa [same told]
  · exact same (parts "trial" ()).2.2.2

end Sequence

end UseCase
