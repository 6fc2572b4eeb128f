import Mathlib.Algebra.Group.Nat.Defs
import Mathlib.Tactic.Common
import UseCase.Proofs.Dispatch

/-!
# Nested calls

The sequences of the entities of a verb may call each other in any way, also in circles. `Reaches`
says which calls a sequence can come to, and `Chain` lists calls each of which stands in the
sequence that the one before it runs. Both are about the description alone: nothing is run, and no
depth is counted.

The main statement `run_within_depth` relates them to runs. Whether a plan has a fault does not
depend on the control device, so that a plan without a fault is one whose calls all have sequences
with plans of the next lower depth (`Within`), and these are the sequences in which every call is
known and no chain is longer than the depth.
-/

namespace UseCase

/-- A call of a sequence: the entity by its kind and name, and which of its sequences is run. -/
structure Call where
  kind : Kind
  name : String
  phase : Phase
  deriving DecidableEq, Repr

namespace Call

/-- The action that makes a call. -/
def action (call : Call) : Action :=
  .call call.kind call.name call.phase

/-- The sequence that a call runs: one of the first entity of this kind and name. -/
def body? (verb : Option Verb) (call : Call) : Option Sequence :=
  verb.bind fun v =>
    ((v.entities call.kind).find? fun e => e.name == call.name).map fun e => e.sequence call.phase

variable {verb : Option Verb} {call : Call} {body : Sequence}

/-- A call whose body is there is given this body. -/
lemma callee_of_body? (found : call.body? verb = some body) :
    Sequence.callee verb call.kind call.name call.phase = .ok body := by
  cases verb with
  | none => cases found
  | some v =>
    obtain ⟨e, there, rfl⟩ := Option.map_eq_some_iff.mp found
    rw [List.find?_eq_bind_findIdx?_getElem?] at there
    have same : (v.find? call.kind call.name).bind (v.entity? call.kind) = some e := there
    simp only [Sequence.callee, same]

/-- A call whose body is not there fails. -/
lemma callee_of_unknown (unknown : call.body? verb = none) :
    ∃ cause, Sequence.callee verb call.kind call.name call.phase = .error cause := by
  cases verb with
  | none => exact ⟨_, rfl⟩
  | some v =>
    have there := Option.map_eq_none_iff.mp unknown
    rw [List.find?_eq_bind_findIdx?_getElem?] at there
    have same : (v.find? call.kind call.name).bind (v.entity? call.kind) = none := there
    exact ⟨.unknown call.kind call.name, by simp only [Sequence.callee, same]⟩

/-- A call has a sequence exactly if there is a verb with an entity of its kind and name. -/
lemma body?_isSome_iff :
    (call.body? verb).isSome ↔
      ∃ v, verb = some v ∧ call.name ∈ (v.entities call.kind).map Entity.name := by
  cases verb with
  | none => exact iff_of_false (fun h => by cases h) fun ⟨v, h, _⟩ => by cases h
  | some v =>
    rw [body?, Option.bind_some, Option.isSome_map, List.find?_isSome]
    constructor
    · rintro ⟨e, member, named⟩
      exact ⟨v, rfl, List.mem_map.mpr ⟨e, member, beq_iff_eq.mp named⟩⟩
    · rintro ⟨v', same, member⟩
      cases same
      obtain ⟨e, member, named⟩ := List.mem_map.mp member
      exact ⟨e, member, beq_iff_eq.mpr named⟩

end Call

namespace Plan

variable {p q : Plan}

/-- Of two plans in a row none fails exactly if neither does. -/
lemma fault_andThen : (p.andThen q).fault = none ↔ p.fault = none ∧ q.fault = none := by
  rw [andThen]
  cases fault : p.fault with
  | none => exact (and_iff_right rfl).symm
  | some cause =>
    refine iff_of_false (fun none => ?_) fun both => by cases both.1
    rw [fault] at none
    cases none

/-- A plan that is performed with success has no fault. -/
lemma fault_of_perform {σ : Type} {b : Backend σ} {label : String} {surface surface' : σ}
    (done : p.perform b label surface = .ok () surface') : p.fault = none := by
  rw [perform, Outcome.bind_apply] at done
  cases fault : p.fault with
  | none => rfl
  | some cause =>
    cases sent : send b label 0 p.steps surface with
    | ok u s =>
      rw [sent, fault] at done
      cases done
    | error f s =>
      rw [sent] at done
      cases done

/-- Two plans in a row have at most the steps of both. -/
lemma length_steps_andThen_le : (p.andThen q).steps.length ≤ p.steps.length + q.steps.length := by
  rw [andThen]
  cases p.fault with
  | none => exact Nat.le_of_eq List.length_append
  | some cause => exact Nat.le_add_right _ _

end Plan

namespace Sequence

variable {verb : Option Verb} {s body : Sequence} {call : Call} {rest : List Call}

/-! ## Calls and chains of calls -/

/-- The calls to which a sequence can come: its own, and those of the sequences that it calls. -/
inductive Reaches (verb : Option Verb) : Sequence → Call → Prop
  | own {s : Sequence} {call : Call} : call.action ∈ s → Reaches verb s call
  | nested {s body : Sequence} {call next : Call} :
    call.action ∈ s → call.body? verb = some body → Reaches verb body next → Reaches verb s next

/-- Calls that can be open at the same time: the first one stands in the sequence, and each other
one in the sequence that the one before it runs. -/
inductive Chain (verb : Option Verb) : Sequence → List Call → Prop
  | last {s : Sequence} {call : Call} : call.action ∈ s → Chain verb s [call]
  | next {s body : Sequence} {call : Call} {rest : List Call} :
    call.action ∈ s → call.body? verb = some body → Chain verb body rest →
      Chain verb s (call :: rest)

/-- Where a call is reached there is a chain of calls. -/
lemma Reaches.chain (reached : Reaches verb s call) : ∃ chain, Chain verb s chain := by
  cases reached with
  | own member => exact ⟨_, .last member⟩
  | nested member _ _ => exact ⟨_, .last member⟩

/-- A chain that starts in the sequence of a call that is reached can be made longer at its front.
-/
lemma Reaches.longer (reached : Reaches verb s call) (found : call.body? verb = some body)
    (chain : Chain verb body rest) :
    ∃ longer, Chain verb s longer ∧ rest.length < longer.length := by
  induction reached with
  | own member => exact ⟨_, .next member found chain, Nat.lt_succ_self _⟩
  | nested member there _ ih =>
    obtain ⟨longer, chained, more⟩ := ih found
    exact ⟨_, .next member there chained, Nat.lt_succ_of_lt more⟩

/-- A call that reaches itself begins chains of every length. -/
lemma Reaches.unbounded (circle : Reaches verb body call) (found : call.body? verb = some body)
    (n : Nat) : ∃ chain, Chain verb body chain ∧ n < chain.length := by
  induction n with
  | zero =>
    obtain ⟨chain, chained⟩ := circle.chain
    cases chained with
    | last member => exact ⟨_, .last member, Nat.zero_lt_succ _⟩
    | next member there later => exact ⟨_, .next member there later, Nat.zero_lt_succ _⟩
  | succ n ih =>
    obtain ⟨chain, chained, long⟩ := ih
    obtain ⟨longer, chained', more⟩ := circle.longer found chained
    exact ⟨longer, chained', Nat.lt_of_le_of_lt long more⟩

/-! ## Plans within a depth -/

/-- Whether all calls of a sequence have sequences, down to a depth at which there are no calls. -/
def Within (verb : Option Verb) : (depth : Nat) → Sequence → Prop
  | 0, s => ∀ call : Call, call.action ∉ s
  | depth + 1, s =>
    ∀ call : Call, call.action ∈ s → ∃ body, call.body? verb = some body ∧ Within verb depth body

/-- If a call has a plan without a fault exactly if it is good, with every control device, then a
sequence has one exactly if all of its calls are good. -/
lemma planWith_fault_iff {nested : Option (Option String → Sequence → Plan)} {good : Call → Prop}
    (calls : ∀ device call,
      (planCall nested verb device call.kind call.name call.phase).fault = none ↔ good call)
    (device : Option String) (s : Sequence) :
    (planWith nested verb device s).fault = none ↔ ∀ call : Call, call.action ∈ s → good call := by
  induction s generalizing device with
  | nil => exact iff_of_true rfl fun call member => absurd member List.not_mem_nil
  | cons action rest ih =>
    -- An action that is no call leaves the calls of the sequence to the rest.
    have others (apart : ∀ call : Call, call.action ≠ action) :
        (∀ call : Call, call.action ∈ action :: rest → good call) ↔
          ∀ call : Call, call.action ∈ rest → good call := by
      refine forall_congr' fun call => ?_
      rw [List.mem_cons, or_iff_right (apart call)]
    cases action with
    | controlDevice name => rw [planWith, ih, others fun call same => by cases same]
    | write control value => rw [planWith, Plan.cons, ih, others fun call same => by cases same]
    | command text => rw [planWith, Plan.cons, ih, others fun call same => by cases same]
    | pause duration => rw [planWith, Plan.cons, ih, others fun call same => by cases same]
    | call kind name phase =>
      rw [planWith, Plan.fault_andThen, ih, calls device ⟨kind, name, phase⟩]
      constructor
      · rintro ⟨here, later⟩ call member
        rcases List.mem_cons.mp member with same | member
        · cases same
          exact here
        · exact later call member
      · intro all
        exact ⟨all ⟨kind, name, phase⟩ List.mem_cons_self,
          fun call member => all call (List.mem_cons_of_mem _ member)⟩

/-- A plan has no fault exactly if all calls have sequences within the depth. -/
lemma planAt_fault_iff (verb : Option Verb) (depth : Nat) (device : Option String) (s : Sequence) :
    (planAt verb depth device s).fault = none ↔ Within verb depth s := by
  induction depth generalizing device s with
  | zero =>
    have bad (device : Option String) (call : Call) :
        (planCall none verb device call.kind call.name call.phase).fault = none ↔ False :=
      iff_of_false (fun h => by cases h) id
    exact planWith_fault_iff bad device s
  | succ depth ih =>
    refine planWith_fault_iff (fun device call => ?_) device s
    rw [planCall]
    cases found : call.body? verb with
    | none =>
      obtain ⟨cause, failed⟩ := Call.callee_of_unknown found
      simp only [failed]
      refine iff_of_false (fun none => by cases none) ?_
      rintro ⟨body, there, -⟩
      cases there
    | some body =>
      simp only [Call.callee_of_body? found, ih device body]
      constructor
      · exact fun within => ⟨body, rfl, within⟩
      · rintro ⟨body', same, within⟩
        cases same
        exact within

/-- All calls have sequences within a depth exactly if all that are reached have one and no chain of
them is longer. -/
lemma within_iff {depth : Nat} :
    Within verb depth s ↔
      (∀ call, Reaches verb s call → (call.body? verb).isSome) ∧
        ∀ chain, Chain verb s chain → chain.length ≤ depth := by
  -- A chain from a sequence is a call of it and, unless this is all, a chain from what is called;
  -- so the bound goes down by one together with the depth.
  induction depth generalizing s with
  | zero =>
    constructor
    · intro none
      refine ⟨fun call reached => ?_, fun chain chained => ?_⟩
      · cases reached with
        | own member => exact absurd member (none call)
        | nested member _ _ => exact absurd member (none _)
      · cases chained with
        | last member => exact absurd member (none _)
        | next member _ _ => exact absurd member (none _)
    · rintro ⟨-, short⟩ call member
      exact absurd (short [call] (.last member)) (Nat.not_succ_le_zero 0)
  | succ depth ih =>
    constructor
    · intro within
      refine ⟨fun call reached => ?_, fun chain chained => ?_⟩
      · cases reached with
        | own member =>
          obtain ⟨body, found, -⟩ := within call member
          exact Option.isSome_of_eq_some found
        | nested member there later =>
          obtain ⟨body, found, deeper⟩ := within _ member
          cases there.symm.trans found
          exact (ih.mp deeper).1 call later
      · cases chained with
        | last member => exact Nat.succ_le_succ (Nat.zero_le depth)
        | next member there later =>
          obtain ⟨body, found, deeper⟩ := within _ member
          cases there.symm.trans found
          exact Nat.succ_le_succ ((ih.mp deeper).2 _ later)
    · rintro ⟨known, short⟩ call member
      obtain ⟨body, found⟩ := Option.isSome_iff_exists.mp (known call (.own member))
      refine ⟨body, found, ih.mpr ⟨fun next reached => ?_, fun chain chained => ?_⟩⟩
      · exact known next (.nested member found reached)
      · exact Nat.le_of_succ_le_succ (short _ (.next member found chained))

/-! ## The number of steps -/

/-- If a call has no more than `n` steps, a sequence has no more than `n` for each of its actions.
-/
lemma planWith_length_le {nested : Option (Option String → Sequence → Plan)} {n : Nat}
    (some : 1 ≤ n)
    (calls : ∀ device kind name phase,
      (planCall nested verb device kind name phase).steps.length ≤ n)
    (device : Option String) (s : Sequence) :
    (planWith nested verb device s).steps.length ≤ s.length * n := by
  induction s generalizing device with
  | nil => exact Nat.zero_le _
  | cons action rest ih =>
    rw [List.length_cons, Nat.succ_mul]
    have one (device : Option String) (step : Step) :
        ((planWith nested verb device rest).cons step).steps.length ≤ rest.length * n + n :=
      Nat.add_le_add (ih device) some
    cases action with
    | controlDevice name => exact (ih _).trans (Nat.le_add_right _ _)
    | write control value => exact one device _
    | command text => exact one device _
    | pause duration => exact one device _
    | call kind name phase =>
      rw [planWith, Nat.add_comm]
      exact Plan.length_steps_andThen_le.trans (Nat.add_le_add (calls _ _ _ _) (ih _))

/-- If no sequence that is called has more than `n` actions, a plan has no more than a power of `n`
steps for each action of its sequence. -/
lemma planAt_length_le {n : Nat} (some : 1 ≤ n)
    (short : ∀ call body, Call.body? verb call = .some body → body.length ≤ n) (depth : Nat)
    (device : Option String) (s : Sequence) :
    (planAt verb depth device s).steps.length ≤ s.length * n ^ depth := by
  induction depth generalizing device s with
  | zero =>
    have silent (device : Option String) (kind : Kind) (name : String) (phase : Phase) :
        (planCall none verb device kind name phase).steps.length ≤ 1 := Nat.zero_le 1
    exact planWith_length_le Nat.le.refl silent device s
  | succ depth ih =>
    refine planWith_length_le (Nat.one_le_pow _ _ some) (fun device kind name phase => ?_) device s
    rw [planCall]
    cases found : Call.body? verb ⟨kind, name, phase⟩ with
    | none =>
      obtain ⟨cause, failed⟩ := Call.callee_of_unknown found
      simp only [failed]
      exact Nat.zero_le _
    | some body =>
      simp only [Call.callee_of_body? found]
      calc (planAt verb depth device body).steps.length
        _ ≤ body.length * n ^ depth := ih device body
        _ ≤ n * n ^ depth := Nat.mul_le_mul_right _ (short _ body found)
        _ = n ^ (depth + 1) := by rw [Nat.pow_succ, Nat.mul_comm]

/-! ## Runs -/

variable {σ : Type}

/-- On a control surface that accepts everything a run succeeds if its plan has no fault, and else
it fails for a call. -/
lemma account_of_accepting {b : Backend σ} (decides : b.DecidesBy fun _ => true) (surface : σ)
    (device : Option String) (label : String) (verb : Option Verb) (s : Sequence) :
    s.account b device label verb surface =
      ⟨(s.plan verb device).steps.map .accepted, (s.plan verb device).answer label⟩ :=
  s.account_accepted device label verb decides (fun _ _ => rfl) surface

/-- Every run comes to an end: if no sequence that can be called has more than `n` actions, the
control surface is told no more than the eighth power of `n` steps for each action of the sequence.

On a surface that accepts everything the run succeeds exactly if every call that the sequence
reaches names an entity of the verb that is given, and no chain of calls has more than eight. Else
it fails for a call. If the sequence reaches a call that reaches itself then the run succeeds on no
surface. -/
theorem run_within_depth (b : Backend σ) (surface : σ) (device : Option String) (label : String)
    (verb : Option Verb) (s : Sequence) :
    let told := s.account b device label verb surface
    (b.DecidesBy (fun _ => true) →
      (told.answer = .ok () ↔
        (∀ call, Reaches verb s call →
          ∃ v, verb = some v ∧ call.name ∈ (v.entities call.kind).map Entity.name) ∧
        ∀ chain, Chain verb s chain → chain.length ≤ 8) ∧
      (told.answer = .ok () ∨ ∃ cause, told.answer = .error (.configuration (.call label cause)))) ∧
    (∀ call body, Reaches verb s call → call.body? verb = some body → Reaches verb body call →
      told.answer ≠ .ok ()) ∧
    ∀ n, 1 ≤ n → (∀ call body, Call.body? verb call = some body → body.length ≤ n) →
      told.exchanges.length ≤ s.length * n ^ 8 := by
  intro told
  have sound : (s.plan verb device).fault = none ↔
      (∀ call, Reaches verb s call →
        ∃ v, verb = some v ∧ call.name ∈ (v.entities call.kind).map Entity.name) ∧
      ∀ chain, Chain verb s chain → chain.length ≤ 8 := by
    rw [plan, planAt_fault_iff, within_iff]
    simp only [Call.body?_isSome_iff, maxDepth]
  refine ⟨fun accepting => ?_, fun call body reached found circle good => ?_,
    fun n some short => ?_⟩
  · have answered : told.answer = (s.plan verb device).answer label := by
      rw [show told = _ from account_of_accepting accepting surface device label verb s]
    rw [answered, ← sound, Plan.answer]
    cases (s.plan verb device).fault with
    | none => exact ⟨iff_of_true rfl rfl, .inl rfl⟩
    | some cause =>
      exact ⟨iff_of_false (fun h => by cases h) (fun h => by cases h), .inr ⟨cause, rfl⟩⟩
  · -- The circle begins a chain that is longer than the depth.
    have performed := eq_ok_of_answer good
    rw [run_eq_perform] at performed
    obtain ⟨chain, chained, long⟩ := circle.unbounded found 8
    obtain ⟨longer, chained', more⟩ := reached.longer found chained
    have short := (sound.mp (Plan.fault_of_perform performed)).2 longer chained'
    omega
  · obtain ⟨sent, recorded, begun⟩ :=
      (Plan.sends_perform b label (s.plan verb device) ⟨surface, []⟩).begins
    have all : told.exchanges = sent := by
      rw [← List.nil_append sent, ← recorded, ← run_eq_perform]
      rfl
    calc told.exchanges.length
      _ = (sent.map Exchange.step).length := by rw [all, List.length_map]
      _ ≤ (s.plan verb device).steps.length := begun.length_le
      _ ≤ s.length * n ^ 8 := planAt_length_le some short maxDepth device s

/-- A device whose enable sequence enables another one. -/
def rung (kind : Kind) (name next : String) : Entity :=
  { Entity.plain kind name with enable := [.call kind next .enable] }

/-- A verb with nine devices, each of which but the last enables the next one, and with two
modifiers that enable each other. -/
def ladder : Verb :=
  { Verb.plain "Ladder" with
    devices := [rung .device "A" "B", rung .device "B" "C", rung .device "C" "D",
      rung .device "D" "E", rung .device "E" "F", rung .device "F" "G", rung .device "G" "H",
      rung .device "H" "I", { Entity.plain .device "I" with enable := .write "Top" "1" }]
    modifiers := [rung .modifier "Ping" "Pong", rung .modifier "Pong" "Ping"] }

/-- No sequence of the ladder has more than one action. -/
lemma ladder_short {call : Call} {body : Sequence} (found : call.body? (some ladder) = some body) :
    body.length ≤ 1 := by
  obtain ⟨e, there, rfl⟩ := Option.map_eq_some_iff.mp found
  have short (kind : Kind) :
      ∀ e ∈ ladder.entities kind, e.enable.length ≤ 1 ∧ e.disable.length ≤ 1 := by
    cases kind <;> decide
  have both := short call.kind e (List.mem_of_find?_eq_some there)
  cases call.phase with
  | enable => exact both.1
  | disable => exact both.2

/-- From the second rung of the ladder upwards eight calls are made, which is the most that can
be, and from the first one a ninth would be needed. The modifiers that call each other are never
enabled. -/
theorem ladder_within_eight :
    let climb (name : String) (kind : Kind) : Sequence := [.call kind name .enable]
    let told (name : String) :=
      account (climb name .device) .acceptAll none "trial" (some ladder) ()
    Backend.acceptAll.DecidesBy (fun _ => true) ∧
      told "B" = ⟨[.accepted (.set none "Top" "1")], .ok ()⟩ ∧
      (∀ chain, Chain (some ladder) (climb "B" .device) chain → chain.length ≤ 8) ∧
      (told "A").answer = .error (.configuration (.call "trial" (.tooDeep 8))) ∧
      (told "A").exchanges.length ≤ 1 ∧
      ∀ (σ : Type) (b : Backend σ) (surface : σ),
        ((climb "Ping" .modifier).account b none "trial" (some ladder) surface).answer ≠ .ok () := by
  intro climb told
  have accepting := Backend.acceptAll_decidesBy
  have nested (name : String) :=
    run_within_depth .acceptAll () none "trial" (some ladder) (climb name .device)
  have done : told "B" = ⟨[.accepted (.set none "Top" "1")], .ok ()⟩ := by rfl
  refine ⟨accepting, done, ?_, by rfl, ?_, fun σ b surface => ?_⟩
  · exact ((((nested "B").1 accepting).1.mp (congrArg Account.answer done)).2)
  · exact (nested "A").2.2 1 Nat.le.refl fun call body found => ladder_short found
  · let ping : Call := ⟨.modifier, "Ping", .enable⟩
    let pong : Call := ⟨.modifier, "Pong", .enable⟩
    have made : pong.action ∈ [pong.action] := List.mem_cons_self
    have circle : Reaches (some ladder) [pong.action] ping :=
      .nested made (by rfl) (.own List.mem_cons_self)
    exact (run_within_depth b surface none "trial" (some ladder) (climb "Ping" .modifier)).2.1
      ping [pong.action] (.own List.mem_cons_self) (by rfl) circle

end Sequence

end UseCase
