import Mathlib.Tactic.Common
import UseCase.Command
import UseCase.Proofs.Card
import UseCase.Proofs.Ranking
import UseCase.Proofs.Stage

/-!
# The agenda of an operation

Everything that an operation is going to do can be told before it does anything: either it is
refused, or it has a list of stages. `agenda` computes this from the card and the activation alone,
without a control surface. The main statement `perform_eq_agenda` says that an operation is
carried out by running the stages of its agenda.

So a fact about all operations, on every control surface and on every way in which they can fail, is
a fact about the agendas.
-/

namespace UseCase.Rig

variable {σ : Type} {c : Card} {a : Activation} {v : Verb} {kind : Kind}

/-- What can be asked of an activation. -/
inductive Operation where
  | command (command : Command)
  | reset
  deriving DecidableEq, Repr

/-- Carries out an operation. -/
def perform (b : Backend σ) (c : Card) : Operation → Op σ Unit
  | .command .fixedBoot => runFixedBoot b c
  | .command .boot => runBoot b c
  | .command .defaults => runDefaults b c
  | .command (.setVerb name) => setVerb b c name
  | .command (.enable kind name) => enable b c kind name
  | .command (.disable kind name) => disable b c kind name
  | .command (.switch kind old new) => switch b c kind old new
  | .reset => reset b c

/-! ## Agendas -/

/-- The active verb, which most operations need. -/
def verbNeeded (c : Card) (a : Activation) : Except Fault Verb :=
  match a.activeVerb? c with
  | some v => .ok v
  | none => .error (.notFound .activeVerb)

/-- The position of a named entity, which must exist. -/
def positionNeeded (v : Verb) (kind : Kind) (name : String) : Except Fault Nat :=
  match v.find? kind name with
  | some index => .ok index
  | none => .error (.notFound (.entity kind name v.name))

/-- Whether the entity at a position may join the active devices other than `leaving`. -/
def admission (a : Activation) (v : Verb) (kind : Kind) (index : Nat) (leaving : Option Nat) :
    Except Fault Unit :=
  let staying := a.devices.filter fun i => some i != leaving
  match v.entity? kind index with
  | some e => e.checkBeside ((staying.filterMap (v.entity? .device)).map Entity.name)
  | none => .ok ()

/-- The stages in which a verb is left: the modifiers and then the devices are stopped, each by
descending priority, and the verb comes last. -/
def teardown (v : Verb) (a : Activation) : List Stage :=
  (Ranking.rankBy (priorityAt v .modifier) (a.active .modifier)).map (.stop .modifier) ++
    ((Ranking.rankBy (priorityAt v .device) (a.active .device)).map (.stop .device) ++ [.leaveVerb])

/-- The stages in which the active verb, if there is one, is left. -/
def departure (c : Card) (a : Activation) : List Stage :=
  match a.activeVerb? c with
  | some v => teardown v a
  | none => []

/-- The stages in which a verb is entered. -/
def arrival (a : Activation) (index : Nat) : List Stage :=
  if a.defaultsApplied then [.enterVerb index] else [.defaults, .enterVerb index]

/-- The stages in which one entity takes the place of an active one. -/
def handover (a : Activation) (v : Verb) (kind : Kind) (old new : Nat) (name : String) :
    List Stage :=
  match (v.entity? kind old).bind fun e => e.transitionTo? name with
  | some _ => [.transition kind old new]
  | none => .stop kind old :: if a.isActive kind new then [] else [.start kind new]

/-- What an operation is going to do, or why it does nothing. -/
def agenda (c : Card) (a : Activation) : Operation → Except Fault (List Stage)
  | .command .fixedBoot => .ok [.fixedBoot]
  | .command .boot => .ok [.boot]
  | .command .defaults => .ok [.defaults]
  | .command (.setVerb name) =>
    if name = inactiveName then .ok (departure c a)
    else
      match c.findVerb? name with
      | some index => .ok (departure c a ++ arrival a index)
      | none => .error (.notFound (.verb name))
  | .command (.enable kind name) => do
    let v ← verbNeeded c a
    let index ← positionNeeded v kind name
    if a.isActive kind index then return []
    admission a v kind index none
    return [.start kind index]
  | .command (.disable kind name) => do
    let v ← verbNeeded c a
    let index ← positionNeeded v kind name
    return if a.isActive kind index then [.stop kind index] else []
  | .command (.switch kind old new) => do
    let v ← verbNeeded c a
    let oldIndex ← positionNeeded v kind old
    if a.isActive kind oldIndex then
      let newIndex ← positionNeeded v kind new
      if newIndex = oldIndex then return []
      unless a.isActive kind newIndex do
        admission a v kind newIndex (if kind = .device then some oldIndex else none)
      return handover a v kind oldIndex newIndex new
    else return []
  | .reset => .ok (departure c a ++ [.forget])

/-- Runs the stages of an agenda, if it is not a refusal. -/
def follow (b : Backend σ) (c : Card) : Except Fault (List Stage) → Op σ Unit
  | .ok stages => runStages b c stages
  | .error f => throw f

/-! ## An operation follows its agenda -/

section

variable (b : Backend σ) {rig : Rig σ}

/-- A single stage is run by itself. -/
lemma runStages_single (stage : Stage) : runStages b c [stage] = stage.run b c :=
  bind_pure_unit

/-- A stage that leaves the activation as it is comes to its task. -/
lemma runStages_task (stage : Stage) (idle : ∀ a, stage.effect a = a) :
    runStages b c [stage] rig = stage.task b c rig := by
  rw [runStages_single, Stage.run, Outcome.bind_apply]
  cases stage.task b c rig with
  | ok u rig' =>
    change EStateM.Result.ok _ { rig' with activation := stage.effect rig'.activation } = _
    rw [idle]
  | error f rig' => rfl

/-- Deactivating an entity is the stage that stops it. -/
lemma deactivate_eq (active : rig.activation.activeVerb? c = some v) (kind : Kind) (index : Nat) :
    deactivate b c v kind index rig = (Stage.stop kind index).run b c rig := by
  rw [Stage.run, Stage.task, bind_assoc, Outcome.bind_ok (activeVerb_apply active), bind_assoc]
  rfl

/-- Activating an entity is the stage that starts it. -/
lemma activate_eq (active : rig.activation.activeVerb? c = some v) (kind : Kind) (index : Nat) :
    activate b c v kind index rig = (Stage.start kind index).run b c rig := by
  rw [Stage.run, Stage.task, bind_assoc, Outcome.bind_ok (activeVerb_apply active), bind_assoc]
  rfl

/-- What is left after some entities of a kind were stopped. -/
lemma effects_stops (kind : Kind) (indices : List Nat) (a : Activation) :
    effects (indices.map (.stop kind)) a =
      a.setActive kind ((a.active kind).filter fun i => i ∉ indices) := by
  induction indices generalizing a with
  | nil =>
    simp only [List.not_mem_nil, not_false_eq_true, decide_true, List.filter_true]
    exact Activation.setActive_active.symm
  | cons index rest ih =>
    change effects (rest.map (.stop kind)) (a.remove kind index) = _
    rw [ih, Activation.remove, Activation.active_setActive_self, Activation.setActive_setActive,
      List.filter_filter]
    refine congrArg (a.setActive kind) (List.filter_congr fun i _ => ?_)
    simp only [List.mem_cons, not_or, bne, Bool.and_comm, Bool.decide_and, decide_not,
      Bool.beq_eq_decide_eq]

/-- Deactivating entities one after the other is running the stages that stop them. -/
lemma deactivateAll_eq (active : rig.activation.activeVerb? c = some v) (kind : Kind)
    (indices : List Nat) :
    deactivateAll b c v kind indices rig = runStages b c (indices.map (.stop kind)) rig := by
  induction indices generalizing rig with
  | nil => rfl
  | cons index rest ih =>
    rw [deactivateAll, List.map_cons, runStages, Outcome.bind_apply, Outcome.bind_apply,
      deactivate_eq b active]
    cases done : (Stage.stop kind index).run b c rig with
    | ok u rig' =>
      refine ih ?_
      rw [Stage.activation_of_ok done, ← active]
      exact Activation.activeVerb?_setActive
    | error f rig' => rfl

/-- The end of stages in a row that come to their end. -/
lemma activation_of_runStages {stages : List Stage} {rig' : Rig σ} {u : Unit}
    (done : runStages b c stages rig = .ok u rig') :
    rig'.activation = effects stages rig.activation := by
  have ended := after_runStages b c stages rig
  rwa [done, completed_of_ok b c done] at ended

/-- Leaving a verb is running its teardown. -/
lemma leaveVerb_eq {index : Nat} (here : rig.activation.verb = some index)
    (found : c.verb? index = some v) :
    leaveVerb b c index rig = runStages b c (teardown v rig.activation) rig := by
  have active : rig.activation.activeVerb? c = some v := by
    rw [Activation.activeVerb?, here, Option.bind_some, found]
  rw [leaveVerb, found]
  change (deactivateKind b c v .modifier >>= fun _ => _) rig = _
  rw [teardown, runStages_append, Outcome.bind_apply, Outcome.bind_apply,
    deactivateKind, Outcome.bind_ok (Outcome.get_apply rig), deactivateAll_eq b active]
  cases modifiers : runStages b c _ rig with
  | error f rig' => rfl
  | ok u rig' =>
    -- The devices are ranked only now, but stopping modifiers has not changed them.
    have reached := activation_of_runStages b modifiers
    rw [effects_stops] at reached
    have active' : rig'.activation.activeVerb? c = some v := by
      rw [reached, Activation.activeVerb?_setActive, active]
    have devices : rig'.activation.active .device = rig.activation.active .device := by
      rw [reached]
      exact Activation.active_setActive_of_ne (by decide)
    simp only
    rw [runStages_append, Outcome.bind_apply, Outcome.bind_apply, deactivateKind,
      Outcome.bind_ok (Outcome.get_apply rig'), deactivateAll_eq b active', devices]
    cases stopped : runStages b c _ rig' with
    | error f rig'' => rfl
    | ok u rig'' =>
      have reached' := activation_of_runStages b stopped
      rw [effects_stops] at reached'
      have active'' : rig''.activation.activeVerb? c = some v := by
        rw [reached', Activation.activeVerb?_setActive, active']
      simp only
      rw [runStages_single, Stage.run, Stage.task, bind_assoc,
        Outcome.bind_ok (activeVerb_apply active'')]
      rfl

/-- Leaving the active verb, if there is one, is running the departure. -/
lemma departure_eq (fits : rig.activation.Fits c) (next : Op σ Unit) :
    (match rig.activation.verb with
      | some index => do
        leaveVerb b c index
        next
      | none => next) rig = (do
        runStages b c (departure c rig.activation)
        next) rig := by
  cases here : rig.activation.verb with
  | none =>
    rw [departure, Activation.activeVerb?, here]
    rfl
  | some index =>
    obtain ⟨v, found, active⟩ := fits.activeVerb? here
    simp only [departure, active, Outcome.bind_apply]
    rw [leaveVerb_eq b here found]

/-- Running the enable sequence of a verb and then counting it as active is the stage that enters
it. -/
lemma runStages_enterVerb {index : Nat} (found : c.verb? index = some v) :
    runStages b c [.enterVerb index] = (do
      run b c (v.name ++ " enable") (some v) v.enable
      update fun a => { a with verb := some index }) := by
  rw [runStages_single, Stage.run, Stage.task, found]
  rfl

/-- Entering a verb is running the arrival. -/
lemma enterVerb_eq {index : Nat} (found : c.verb? index = some v) (name : String) :
    enterVerb b c name index rig = runStages b c (arrival rig.activation index) rig := by
  rw [enterVerb, Outcome.bind_ok (Outcome.get_apply rig), arrival, found]
  cases rig.activation.defaultsApplied with
  | true => exact (congrFun (runStages_enterVerb b found) rig).symm
  | false =>
    change _ = (Stage.defaults.run b c >>= fun _ => runStages b c [.enterVerb index]) rig
    rw [runStages_enterVerb b found]
    rfl

/-- Leaving the verb consists of the stages of the departure. -/
lemma agenda_quit : agenda c a (.command (.setVerb inactiveName)) = .ok (departure c a) := by
  rw [agenda, if_pos rfl]

/-- Setting a verb that the card describes is a departure and the arrival of that verb. -/
lemma agenda_setVerb {name : String} {index : Nat} (other : name ≠ inactiveName)
    (defined : c.findVerb? name = some index) :
    agenda c a (.command (.setVerb name)) = .ok (departure c a ++ arrival a index) := by
  rw [agenda, if_neg other, defined]

/-- A teardown consists of stops and of leaving the verb. -/
lemma cases_of_mem_teardown {stage : Stage} (member : stage ∈ teardown v a) :
    (∃ kind index, stage = .stop kind index) ∨ stage = .leaveVerb := by
  simp only [teardown, List.mem_append, List.mem_map, List.mem_singleton] at member
  rcases member with ⟨i, -, rfl⟩ | ⟨i, -, rfl⟩ | last
  · exact .inl ⟨_, _, rfl⟩
  · exact .inl ⟨_, _, rfl⟩
  · exact .inr last

/-- A departure consists of stops and of leaving the verb. -/
lemma cases_of_mem_departure {stage : Stage} (member : stage ∈ departure c a) :
    (∃ kind index, stage = .stop kind index) ∨ stage = .leaveVerb := by
  rw [departure] at member
  cases active : a.activeVerb? c with
  | none =>
    rw [active] at member
    cases member
  | some v =>
    rw [active] at member
    exact cases_of_mem_teardown member

/-- Some stages of a departure do not forget whether the defaults were run. -/
lemma defaultsApplied_of_departure {stages : List Stage} (a' : Activation)
    (departing : ∀ stage ∈ stages, stage ∈ departure c a) :
    (effects stages a').defaultsApplied = a'.defaultsApplied := by
  induction stages generalizing a' with
  | nil => rfl
  | cons stage rest ih =>
    have later := ih (stage.effect a') fun s member => departing s (List.mem_cons_of_mem _ member)
    refine later.trans ?_
    rcases cases_of_mem_departure (departing stage List.mem_cons_self) with ⟨kind, index, rfl⟩ | rfl
    · exact Activation.defaultsApplied_setActive
    · rfl

/-- Setting a verb follows its agenda. -/
lemma setVerb_eq (fits : rig.activation.Fits c) (name : String) :
    setVerb b c name rig = follow b c (agenda c rig.activation (.command (.setVerb name))) rig := by
  rw [setVerb, target, agenda]
  split_ifs with inactive
  · rw [pure_bind, Outcome.bind_ok (Outcome.get_apply rig)]
    exact (departure_eq b fits (pure ())).trans (by rw [bind_pure_unit, follow])
  · cases sought : c.findVerb? name with
    | none => rfl
    | some index =>
      obtain ⟨v, found, -⟩ := Card.verb?_of_findVerb? sought
      rw [pure_bind, Outcome.bind_ok (Outcome.get_apply rig)]
      refine (departure_eq b fits (enterVerb b c name index)).trans ?_
      simp only [follow]
      rw [runStages_append, Outcome.bind_apply, Outcome.bind_apply]
      cases left : runStages b c (departure c rig.activation) rig with
      | error f rig' => rfl
      | ok u rig' =>
        -- Whether the defaults are to be run is asked only now, but a departure keeps the answer.
        have kept : rig'.activation.defaultsApplied = rig.activation.defaultsApplied := by
          rw [activation_of_runStages b left]
          exact defaultsApplied_of_departure rig.activation fun stage member => member
        have same : arrival rig'.activation index = arrival rig.activation index := by
          rw [arrival, kept, arrival]
        exact (enterVerb_eq b found name).trans (by rw [same])

/-- Resetting follows its agenda. -/
lemma reset_eq (fits : rig.activation.Fits c) :
    reset b c rig = follow b c (agenda c rig.activation .reset) rig := by
  rw [reset, Outcome.bind_apply, setVerb_eq b fits, agenda, if_pos rfl, agenda, follow, follow,
    runStages_append, Outcome.bind_apply]
  cases runStages b c (departure c rig.activation) rig <;> rfl

/-! ### Operations on the entities of the active verb -/

/-- If an operation begins with a question to the activation and goes on as its agenda does after
the answer, then it follows its agenda. -/
lemma bind_eq_follow {α : Type} {x : Op σ α} {f : α → Op σ Unit} {y : Except Fault α}
    {g : α → Except Fault (List Stage)} (asks : x rig = (ofExcept y : Op σ α) rig)
    (next : ∀ a, y = .ok a → f a rig = follow b c (g a) rig) :
    (x >>= f) rig = follow b c (y >>= g) rig := by
  rw [Outcome.bind_apply, asks]
  cases y with
  | ok a => exact next a rfl
  | error f => rfl

/-- The active verb is the one that the agenda asks for. -/
lemma activeVerb_eq :
    activeVerb c rig = (ofExcept (verbNeeded c rig.activation) : Op σ Verb) rig := by
  rw [activeVerb, Outcome.bind_ok (Outcome.get_apply rig), verbNeeded]
  cases rig.activation.activeVerb? c <;> rfl

/-- What was answered is the active verb. -/
lemma active_of_verbNeeded (asked : verbNeeded c a = .ok v) : a.activeVerb? c = some v := by
  rw [verbNeeded] at asked
  cases active : a.activeVerb? c with
  | none =>
    rw [active] at asked
    cases asked
  | some w =>
    rw [active] at asked
    cases asked
    rfl

/-- The position of an entity is the one that the agenda asks for. -/
lemma position_eq (v : Verb) (kind : Kind) (name : String) :
    position v kind name rig = (ofExcept (positionNeeded v kind name) : Op σ Nat) rig := by
  rw [position, positionNeeded]
  cases v.find? kind name <;> rfl

/-- At the position that was answered there is an entity of the name. -/
lemma entity_of_positionNeeded {name : String} {index : Nat}
    (asked : positionNeeded v kind name = .ok index) :
    ∃ e, v.entity? kind index = some e ∧ e.name = name := by
  rw [positionNeeded] at asked
  cases sought : v.find? kind name with
  | none =>
    rw [sought] at asked
    cases asked
  | some found =>
    rw [sought] at asked
    cases asked
    exact Verb.entity?_of_find? sought

/-- An entity is refused beside the active ones exactly as the agenda refuses it. -/
lemma checkBeside_eq {index : Nat} {e : Entity} (found : v.entity? kind index = some e)
    (leaving : Option Nat) :
    checkBeside v e leaving rig =
      (ofExcept (admission rig.activation v kind index leaving) : Op σ Unit) rig := by
  rw [checkBeside, Outcome.bind_ok (Outcome.get_apply rig), admission]
  simp only [found]

/-- Enabling follows its agenda. -/
lemma enable_eq (kind : Kind) (name : String) :
    enable b c kind name rig =
      follow b c (agenda c rig.activation (.command (.enable kind name))) rig := by
  refine bind_eq_follow b activeVerb_eq fun v asked => ?_
  refine bind_eq_follow b (position_eq v kind name) fun index sought => ?_
  have active := active_of_verbNeeded asked
  obtain ⟨e, found, -⟩ := entity_of_positionNeeded sought
  rw [Outcome.bind_ok (Outcome.get_apply rig)]
  cases rig.activation.isActive kind index with
  | true => rfl
  | false =>
    refine (Outcome.bind_ok (entity_apply found rig)).trans ?_
    refine bind_eq_follow b (checkBeside_eq found none) fun _ _ => ?_
    rw [activate_eq b active]
    exact congrFun (runStages_single b (.start kind index)).symm rig

/-- Disabling follows its agenda. -/
lemma disable_eq (kind : Kind) (name : String) :
    disable b c kind name rig =
      follow b c (agenda c rig.activation (.command (.disable kind name))) rig := by
  refine bind_eq_follow b activeVerb_eq fun v asked => ?_
  refine bind_eq_follow b (position_eq v kind name) fun index sought => ?_
  rw [Outcome.bind_ok (Outcome.get_apply rig)]
  cases rig.activation.isActive kind index with
  | true =>
    refine (deactivate_eq b (active_of_verbNeeded asked) kind index).trans ?_
    exact congrFun (runStages_single b (.stop kind index)).symm rig
  | false => rfl

/-- Going from one entity directly to another is the stage for the transition. -/
lemma transition_eq (active : rig.activation.activeVerb? c = some v) {old new : Nat}
    {e target : Entity} (found : v.entity? kind old = some e)
    (found' : v.entity? kind new = some target) {s : Sequence}
    (way : e.transitionTo? target.name = some s) :
    (do run b c (e.name ++ " to " ++ target.name ++ " transition") (some v) s
        update fun a =>
          if rig.activation.isActive kind new then a.remove kind old
          else a.replace kind old new) rig = (Stage.transition kind old new).run b c rig := by
  have kept := Steady.run b c (e.name ++ " to " ++ target.name ++ " transition") (some v) s rig
  have task : (Stage.transition kind old new).task b c rig =
      run b c (e.name ++ " to " ++ target.name ++ " transition") (some v) s rig := by
    rw [Stage.task, Outcome.bind_ok (activeVerb_apply active),
      Outcome.bind_ok (entity_apply found rig), Outcome.bind_ok (entity_apply found' rig), way]
  rw [Stage.run, Outcome.bind_apply, Outcome.bind_apply, task]
  cases ran : run b c (e.name ++ " to " ++ target.name ++ " transition") (some v) s rig with
  | error f rig' => rfl
  | ok u rig' =>
    -- The stage asks whether the new entity is active only after the sequence, which keeps this.
    rw [ran] at kept
    change EStateM.Result.ok _ { rig' with activation := _ } =
      EStateM.Result.ok _ { rig' with activation := Stage.effect _ rig'.activation }
    rw [Stage.effect, show rig'.activation = rig.activation from kept]

/-- Disabling one entity and enabling another is the stages for that. -/
lemma replacement_eq (active : rig.activation.activeVerb? c = some v) (kind : Kind)
    (old new : Nat) :
    (do deactivate b c v kind old
        unless rig.activation.isActive kind new do activate b c v kind new) rig =
      runStages b c (.stop kind old ::
        if rig.activation.isActive kind new then [] else [.start kind new]) rig := by
  rw [runStages, Outcome.bind_apply, Outcome.bind_apply, deactivate_eq b active]
  cases stopped : (Stage.stop kind old).run b c rig with
  | error f rig' => rfl
  | ok u rig' =>
    have active' : rig'.activation.activeVerb? c = some v := by
      rw [← active, Stage.activation_of_ok stopped]
      exact Activation.activeVerb?_setActive
    cases rig.activation.isActive kind new with
    | true => rfl
    | false =>
      refine (activate_eq b active' kind new).trans ?_
      exact congrFun (runStages_single b (.start kind new)).symm rig'

/-- One entity takes the place of another in the stages of a handover. -/
lemma handover_eq (active : rig.activation.activeVerb? c = some v) {old new : Nat}
    {e target : Entity} (found : v.entity? kind old = some e)
    (found' : v.entity? kind new = some target) :
    (match e.transitionTo? target.name with
      | some s => do
        run b c (e.name ++ " to " ++ target.name ++ " transition") (some v) s
        update fun a =>
          if rig.activation.isActive kind new then a.remove kind old else a.replace kind old new
      | none => do
        deactivate b c v kind old
        unless rig.activation.isActive kind new do activate b c v kind new) rig =
      runStages b c (handover rig.activation v kind old new target.name) rig := by
  rw [handover, found, Option.bind_some]
  cases way : e.transitionTo? target.name with
  | some s =>
    rw [runStages_single]
    exact transition_eq b active found found' way
  | none => exact replacement_eq b active kind old new

/-- Switching follows its agenda. -/
lemma switch_eq (kind : Kind) (old new : String) :
    switch b c kind old new rig =
      follow b c (agenda c rig.activation (.command (.switch kind old new))) rig := by
  refine bind_eq_follow b activeVerb_eq fun v asked => ?_
  refine bind_eq_follow b (position_eq v kind old) fun oldIndex sought => ?_
  have active := active_of_verbNeeded asked
  obtain ⟨e, found, rfl⟩ := entity_of_positionNeeded sought
  rw [Outcome.bind_ok (Outcome.get_apply rig)]
  cases rig.activation.isActive kind oldIndex with
  | false => rfl
  | true =>
    refine bind_eq_follow b (position_eq v kind new) fun newIndex sought' => ?_
    obtain ⟨target, found', rfl⟩ := entity_of_positionNeeded sought'
    by_cases same : newIndex = oldIndex
    · rw [if_pos same, if_pos same]
      rfl
    · have last := handover_eq b active found found'
      rw [if_neg same, if_neg same, switchActive, Outcome.bind_ok (entity_apply found rig),
        Outcome.bind_ok (entity_apply found' rig), Outcome.bind_ok (Outcome.get_apply rig)]
      cases newActive : rig.activation.isActive kind newIndex with
      | true =>
        rw [newActive] at last
        exact last
      | false =>
        rw [newActive] at last
        exact bind_eq_follow b (checkBeside_eq found' _) fun _ _ => last

/-- An operation is carried out by running the stages of its agenda, or refused if it has none. -/
theorem perform_eq_agenda (fits : rig.activation.Fits c) (op : Operation) :
    perform b c op rig = follow b c (agenda c rig.activation op) rig := by
  cases op with
  | reset => exact reset_eq b fits
  | command command =>
    cases command with
    | fixedBoot => exact (runStages_task b .fixedBoot fun _ => rfl).symm
    | boot => exact (runStages_task b .boot fun _ => rfl).symm
    | defaults => exact congrFun (runStages_single b .defaults).symm rig
    | setVerb name => exact setVerb_eq b fits name
    | enable kind name => exact enable_eq b kind name
    | disable kind name => exact disable_eq b kind name
    | switch kind old new => exact switch_eq b kind old new

end

end UseCase.Rig
