import Mathlib.Tactic.Common
import UseCase.Proofs.Dispatch
import UseCase.Proofs.Session

/-!
# Operations that fail

What is left of an operation that failed. One that is refused has done nothing and has sent
nothing; enabling and disabling consist of a single stage, which has no effect when it fails; and
loading a card anew changes nothing before the new description is accepted. Only a switch can fail
halfway: `Rig.HalfSwitched` says that the old entity was disabled and the new one could not be
enabled.

The main statement is `Session.Reachable.atomic`, about all sessions that can be reached.
-/

namespace UseCase

/-- A sequence does not fail as a refusal. -/
lemma Fault.OfRefusal.not_ofSequence {f : Fault} (refusal : f.OfRefusal) : ¬ f.OfSequence := by
  cases f with
  | notFound _ | conflict _ _ => exact not_false
  | sequence _ _ _ | configuration _ | invalid _ | system _ | toml _ => exact refusal.elim

namespace Rig

variable {σ : Type} {b : Backend σ} {c : Card} {rig rig' : Rig σ} {f : Fault} {v : Verb}
variable {kind : Kind} {old new : String} {i : Nat}

/-! ## Refusals -/

/-- An operation that is refused has no agenda. -/
lemma agenda_of_refusal (fits : rig.activation.Fits c) {op : Operation}
    (failed : perform b c op rig = .error f rig') (refusal : f.OfRefusal) :
    agenda c rig.activation op = .error f := by
  rw [perform_eq_agenda b fits] at failed
  cases planned : agenda c rig.activation op with
  | error g =>
    rw [planned] at failed
    cases failed
    rfl
  | ok stages =>
    rw [planned] at failed
    exact absurd ((agenda_chained fits planned).fault fits failed) refusal.not_ofSequence

/-- An operation that is refused has changed and sent nothing. -/
lemma report_refused {a : Activation} {surface : σ} (fits : a.Fits c) {op : Operation}
    (refused : agenda c a op = .error f) : report b c op a surface = ⟨[], .error f, a⟩ := by
  let rig : Rig σ := ⟨a, surface⟩
  let recorded : Rig (Watched σ) := ⟨a, ⟨surface, []⟩⟩
  have fits' : rig.activation.Fits c := fits
  have fits'' : recorded.activation.Fits c := fits
  have alone : perform b c op rig = .error f rig := by
    rw [perform_eq_agenda b fits', refused]
    rfl
  have silent : perform b.watch c op recorded = .error f recorded := by
    rw [perform_eq_agenda b.watch fits'', refused]
    rfl
  rw [report, alone, silent]
  rfl

/-! ## Single stages -/

/-- An operation of a single stage, or of none, has no effect when it fails. -/
lemma activation_of_brief (fits : rig.activation.Fits c) {op : Operation}
    (brief : ∀ stages, agenda c rig.activation op = .ok stages → stages.length ≤ 1)
    (failed : perform b c op rig = .error f rig') : rig'.activation = rig.activation := by
  rw [perform_eq_agenda b fits] at failed
  cases planned : agenda c rig.activation op with
  | error g =>
    rw [planned] at failed
    cases failed
    rfl
  | ok stages =>
    rw [planned] at failed
    match stages, brief stages planned with
    | [], _ => cases failed
    | [stage], _ =>
      rw [follow, runStages_single] at failed
      exact Stage.activation_of_error failed

/-- Enabling is a single stage. -/
lemma length_enable {a : Activation} {name : String} {stages : List Stage}
    (planned : agenda c a (.command (.enable kind name)) = .ok stages) : stages.length ≤ 1 := by
  cases agenda_course planned with
  | enabled => exact Nat.zero_le 1
  | enable => exact Nat.le_refl 1

/-- Disabling is a single stage. -/
lemma length_disable {a : Activation} {name : String} {stages : List Stage}
    (planned : agenda c a (.command (.disable kind name)) = .ok stages) : stages.length ≤ 1 := by
  cases agenda_course planned with
  | disabled => exact Nat.zero_le 1
  | disable => exact Nat.le_refl 1

/-! ## Switches -/

/-- A switch failed with `f` after its first half: no sequence leads directly from the old entity to
the new one, the old one was active at position `i` and was disabled, and enabling the new one
failed. -/
inductive HalfSwitched (b : Backend σ) (c : Card) (rig : Rig σ) (kind : Kind) (old new : String)
    (i : Nat) (f : Fault) : Prop
  | intro {v : Verb} {e : Entity} {j : Nat} {mid last : Rig σ} :
    rig.activation.activeVerb? c = some v →
    v.find? kind old = some i → i ∈ rig.activation.active kind →
    v.entity? kind i = some e → e.transitionTo? new = none →
    v.find? kind new = some j →
    deactivate b c v kind i rig = .ok () mid →
    activate b c v kind j mid = .error f last →
    HalfSwitched b c rig kind old new i f

/-- Enabling an entity of the verb fails as a sequence does. -/
lemma activate_fault (found : v.find? kind new = some i)
    (failed : activate b c v kind i rig = .error f rig') : f.OfSequence := by
  obtain ⟨e, there, -⟩ := Verb.entity?_of_find? found
  rw [activate, Outcome.bind_ok (entity_apply there rig), Outcome.bind_apply] at failed
  cases ran : run b c (e.name ++ " enable") (some v) e.enable rig with
  | ok u mid =>
    rw [ran] at failed
    cases failed
  | error g mid =>
    rw [ran] at failed
    cases failed
    exact run_fault ran

/-- A handover that fails has no effect, or it has lost the old entity: exactly when it failed
halfway. -/
lemma handover_error (active : rig.activation.activeVerb? c = some v) {j : Nat}
    (here : v.find? kind old = some i) (on : i ∈ rig.activation.active kind)
    (there : v.find? kind new = some j)
    (failed : runStages b c (handover rig.activation v kind i j new) rig = .error f rig') :
    (HalfSwitched b c rig kind old new i f ∧ rig'.activation = rig.activation.remove kind i) ∨
    (¬ HalfSwitched b c rig kind old new i f ∧ rig'.activation = rig.activation) := by
  obtain ⟨e, found, -⟩ := Verb.entity?_of_find? here
  rw [handover, found, Option.bind_some] at failed
  cases way : e.transitionTo? new with
  | some s =>
    rw [way] at failed
    simp only [runStages_single] at failed
    -- A sequence that leads over directly is a single stage, so it cannot fail halfway.
    refine .inr ⟨?_, Stage.activation_of_error failed⟩
    rintro ⟨active', -, -, found', indirect, -, -, -⟩
    cases active.symm.trans active'
    cases found.symm.trans found'
    cases way.symm.trans indirect
  | none =>
    rw [way] at failed
    simp only [runStages, Outcome.bind_apply] at failed
    cases stopped : (Stage.stop kind i).run b c rig with
    | error g mid =>
      rw [stopped] at failed
      cases failed
      -- The old entity would not stop; halfway it would have stopped.
      refine .inr ⟨?_, Stage.activation_of_error stopped⟩
      rintro ⟨active', -, -, -, -, -, disabled, -⟩
      cases active.symm.trans active'
      rw [deactivate_eq b active, stopped] at disabled
      cases disabled
    | ok u mid =>
      rw [stopped] at failed
      have reached : mid.activation = rig.activation.remove kind i :=
        Stage.activation_of_ok stopped
      have active' : mid.activation.activeVerb? c = some v := by
        rw [← active, reached]
        exact Activation.activeVerb?_setActive
      split_ifs at failed with newActive
      · cases failed
      · simp only [runStages_single] at failed
        have disabled : deactivate b c v kind i rig = .ok () mid := by
          rw [deactivate_eq b active, stopped]
        have lost : activate b c v kind j mid = .error f rig' := by
          rw [activate_eq b active', failed]
        refine .inl ⟨.intro active here on found way there disabled lost, ?_⟩
        rw [Stage.activation_of_error failed, reached]

/-- A switch that fails has no effect, or it has lost the old entity: exactly when it failed
halfway. -/
lemma switch_error (fits : rig.activation.Fits c)
    (failed : perform b c (.command (.switch kind old new)) rig = .error f rig') :
    (∃ i, HalfSwitched b c rig kind old new i f ∧
      rig'.activation = rig.activation.remove kind i) ∨
    ((∀ i, ¬ HalfSwitched b c rig kind old new i f) ∧ rig'.activation = rig.activation) := by
  have follows := failed
  rw [perform_eq_agenda b fits] at follows
  cases planned : agenda c rig.activation (.command (.switch kind old new)) with
  | error g =>
    -- What is refused has done nothing, so the enabling cannot be what failed.
    have refusal := agenda_refuses _ g planned
    rw [planned] at follows
    cases follows
    refine .inr ⟨?_, rfl⟩
    rintro i ⟨-, -, -, -, -, there, -, lost⟩
    exact refusal.not_ofSequence (activate_fault there lost)
  | ok stages =>
    rw [planned] at follows
    cases agenda_course planned with
    | stay => cases follows
    | @switch v _ _ _ i j active here on there =>
      rcases handover_error active here on there follows with ⟨half, reached⟩ | ⟨whole, reached⟩
      · exact .inl ⟨i, half, reached⟩
      · refine .inr ⟨?_, reached⟩
        -- The old entity is found at one position only.
        rintro i' half
        have same : i' = i := by
          obtain ⟨active', here', -, -, -, -, -, -⟩ := half
          cases active.symm.trans active'
          exact Option.some.inj (here'.symm.trans here)
        exact whole (same ▸ half)

end Rig

/-- The same source of cards, beside the record of a control surface. -/
def Loader.watch {σ : Type} (l : Loader σ) : Loader (Watched σ) :=
  l.onPart Watched.surface fun w surface => { w with surface := surface }

namespace Session

variable {σ : Type} {l : Loader σ} {b : Backend σ} {s : Session σ} {f : Fault} {op : Operation}

/-! ## Operations on a watched session -/

/-- What an operation does to the rig, if it can be read and is not a reload. -/
def Operation.onRig? : Operation → Option Rig.Operation
  | .set identifier value => (Command.parse identifier value).toOption.map .command
  | .execute command => some (.command command)
  | .reset => some .reset
  | .reload => none

/-- An operation on the rig is carried out there. -/
lemma perform_onRig {task : Rig.Operation} (meant : op.onRig? = some task) :
    perform l b op = onRig fun c => Rig.perform b c task := by
  cases op with
  | set identifier value =>
    rw [perform, set]
    cases parsed : Command.parse identifier value with
    | error f =>
      rw [Operation.onRig?, parsed] at meant
      cases meant
    | ok command =>
      rw [Operation.onRig?, parsed] at meant
      cases meant
      exact execute_eq b command
  | execute command =>
    cases meant
    exact execute_eq b command
  | reset =>
    cases meant
    rfl
  | reload => cases meant

/-- An operation that is not on the rig is a reload, or it cannot be read. -/
lemma reload_or_malformed (meant : op.onRig? = none) :
    op = .reload ∨ ∃ identifier value cause,
      op = .set identifier value ∧ Command.parse identifier value = .error (.invalid cause) := by
  cases op with
  | set identifier value =>
    cases parsed : Command.parse identifier value with
    | error f =>
      obtain ⟨cause, rfl⟩ := Command.fault_of_parse parsed
      exact .inr ⟨identifier, value, cause, rfl, parsed⟩
    | ok command =>
      rw [Operation.onRig?, parsed] at meant
      cases meant
  | execute command => cases meant
  | reset => cases meant
  | reload => exact .inl rfl

/-- What cannot be read is refused. -/
lemma set_malformed {identifier : String} {value : Option String}
    (malformed : Command.parse identifier value = .error f) :
    set b identifier value = throw f := by
  rw [set, malformed]
  rfl

/-- The session beside a record of what its control surface is told from now on. -/
def watched (s : Session σ) : Session (Watched σ) :=
  ⟨s.id, s.name, s.card, ⟨s.rig.activation, ⟨s.rig.surface, []⟩⟩⟩

/-- The session without the record. -/
def unwatched (s : Session (Watched σ)) : Session σ :=
  ⟨s.id, s.name, s.card, s.rig.unwatched⟩

/-- What an operation on a session comes to: what the control surface was told, the answer, and the
card and the activation at the end. -/
structure Report where
  exchanges : List Exchange
  answer : Except Fault Unit
  card : Card
  activation : Activation

/-- What carrying out an operation comes to. -/
def report (l : Loader σ) (b : Backend σ) (op : Operation) (s : Session σ) : Report where
  exchanges := (after (perform l.watch b.watch op s.watched)).rig.exchanges
  answer := UseCase.answer (perform l b op s)
  card := (after (perform l b op s)).card
  activation := (after (perform l b op s)).rig.activation

/-- A reload on a watched session is one on the session, with nothing on record. -/
lemma reload_watched (l : Loader σ) (s : Session σ) :
    reload l.watch s.watched =
      match loadValid l s.name s.rig.surface with
      | .error f surface => .error f { s with rig.surface := surface }.watched
      | .ok card surface => .ok () { s with card := card, rig := ⟨.fresh, surface⟩ }.watched := by
  rw [reload_eq, loadValid_eq, loadValid_eq]
  simp only [Loader.watch, Loader.onPart, onPart, watched]
  cases l.load s.name s.rig.surface with
  | error f surface => rfl
  | ok card surface =>
    simp only
    cases card.validate <;> rfl

/-- Watching an operation changes neither its answer nor the session. -/
theorem perform_watch (fits : s.rig.activation.Fits s.card) (op : Operation) :
    UseCase.answer (perform l.watch b.watch op s.watched) = UseCase.answer (perform l b op s) ∧
      (after (perform l.watch b.watch op s.watched)).unwatched = after (perform l b op s) := by
  cases meant : op.onRig? with
  | some task =>
    have fits' : s.watched.rig.activation.Fits s.card := fits
    obtain ⟨sameAnswer, sameRig⟩ := Rig.perform_watch b fits' task
    rw [perform_onRig meant, perform_onRig meant, answer_onRig, answer_onRig, after_onRig,
      after_onRig]
    exact ⟨sameAnswer, congrArg (Session.mk s.id s.name s.card) sameRig⟩
  | none =>
    rcases reload_or_malformed meant with rfl | ⟨identifier, value, cause, rfl, malformed⟩
    · rw [perform, perform, reload_watched, reload_eq]
      cases loadValid l s.name s.rig.surface <;> exact ⟨rfl, rfl⟩
    · rw [perform, perform, set_malformed malformed, set_malformed malformed]
      exact ⟨rfl, rfl⟩

/-! ## What a failure leaves -/

/-- An operation that is not on the rig and fails has changed and sent nothing. -/
lemma report_aside (meant : op.onRig? = none) (failed : (report l b op s).answer = .error f) :
    (report l b op s).card = s.card ∧ (report l b op s).activation = s.rig.activation ∧
      (report l b op s).exchanges = [] := by
  rcases reload_or_malformed meant with rfl | ⟨identifier, value, cause, rfl, malformed⟩
  · simp only [report, perform, reload_watched l s, reload_eq l s] at failed ⊢
    cases loaded : loadValid l s.name s.rig.surface with
    | ok card surface =>
      rw [loaded] at failed
      cases failed
    | error g surface => exact ⟨rfl, rfl, rfl⟩
  · simp only [report, perform, set_malformed malformed]
    exact ⟨rfl, rfl, rfl⟩

/-- What an operation on the rig comes to is told by the rig. -/
lemma report_onRig {task : Rig.Operation} (meant : op.onRig? = some task) :
    let told := Rig.report b s.card task s.rig.activation s.rig.surface
    report l b op s = ⟨told.exchanges, told.answer, s.card, told.activation⟩ := by
  intro told
  rw [report, perform_onRig meant, perform_onRig meant, answer_onRig, after_onRig, after_onRig]
  rfl

/-- In every session that can be reached an operation that fails keeps the card. If it was to enable
or to disable an entity it keeps the activation, too, and if it was a switch it does so or it failed
halfway, and then just the old entity was removed. An operation that was refused because something
is missing or for a clash, and any reload, has changed and sent nothing. -/
theorem Reachable.atomic (reached : s.Reachable l b)
    (failed : (report l b op s).answer = .error f) :
    let told := report l b op s
    told.card = s.card ∧
    (∀ kind name, op.onRig? = some (.command (.enable kind name)) ∨
        op.onRig? = some (.command (.disable kind name)) →
      told.activation = s.rig.activation) ∧
    (∀ kind old new, op.onRig? = some (.command (.switch kind old new)) →
      (∃ i, Rig.HalfSwitched b s.card s.rig kind old new i f ∧
        told.activation = s.rig.activation.remove kind i) ∨
      ((∀ i, ¬ Rig.HalfSwitched b s.card s.rig kind old new i f) ∧
        told.activation = s.rig.activation)) ∧
    (f.OfRefusal ∨ op = .reload →
      told.activation = s.rig.activation ∧ told.exchanges = []) := by
  have fits := reached.toSound.reached.fits
  intro told
  cases meant : op.onRig? with
  | none =>
    obtain ⟨sameCard, same, silent⟩ := report_aside meant failed
    refine ⟨sameCard, fun _ _ _ => same, ?_, fun _ => ⟨same, silent⟩⟩
    intro kind old new switched
    cases switched
  | some task =>
    have told_eq : told = _ := report_onRig meant
    have failed' : (Rig.report b s.card task s.rig.activation s.rig.surface).answer = .error f := by
      rw [← failed, report_onRig meant]
    have ended := eq_error_of_answer failed'
    refine ⟨by rw [told_eq], ?_, ?_, ?_⟩
    -- Enabling and disabling have one stage at most, so there is nothing that could be half done.
    · rintro kind name (same | same) <;> cases same
      · rw [told_eq]
        exact Rig.activation_of_brief fits (fun _ => Rig.length_enable) ended
      · rw [told_eq]
        exact Rig.activation_of_brief fits (fun _ => Rig.length_disable) ended
    · intro kind old new same
      cases same
      rw [told_eq]
      exact Rig.switch_error fits ended
    · rintro (refusal | rfl)
      · rw [told_eq, Rig.report_refused fits (Rig.agenda_of_refusal fits ended refusal)]
        exact ⟨rfl, rfl⟩
      · cases meant

/-- A session in which the headphones are active and the speaker will not start. -/
def speakerless : Session Recorder :=
  let start : Session Recorder := ⟨0, .named "TestCard", Sample.card, ⟨.fresh, .fresh⟩⟩
  let run (op : Operation) (s : Session Recorder) : Session Recorder :=
    after (perform (serving Sample.card) Recorder.backend op s)
  let listening := run (.set "_enadev" (some "Headphones")) <|
    run (.set "_verb" (some "HiFi")) start
  { listening with rig.surface := listening.rig.surface.failOn "Speaker on" }

/-- The session is reached from its opening. -/
lemma speakerless_reachable : speakerless.Reachable (serving Sample.card) Recorder.backend := by
  have opened : open? (serving Sample.card) 0 "TestCard" Recorder.fresh =
      .ok ⟨0, .named "TestCard", Sample.card, ⟨.fresh, .fresh⟩⟩ .fresh := by rfl
  dsimp only [speakerless]
  exact .drift _ (.step _ (.step _ (.opened opened)))

/-- The headphones are given up for a speaker that does not start: a switch that failed halfway. -/
theorem speakerless_switch :
    let told := report (serving Sample.card) Recorder.backend
      (.set "_swdev/Headphones" (some "Speaker")) speakerless
    let fault := Fault.sequence "Speaker enable" 0 (.rejected "Speaker on" "injected failure")
    told.answer = .error fault ∧ told.card = speakerless.card ∧
      speakerless.rig.activation = ⟨some 0, [1], [], true⟩ ∧
      told.activation = ⟨some 0, [], [], true⟩ ∧
      ∃ i, Rig.HalfSwitched Recorder.backend speakerless.card speakerless.rig .device
        "Headphones" "Speaker" i fault := by
  intro told fault
  have failed : told.answer = .error fault := by rfl
  obtain ⟨sameCard, -, switched, -⟩ := Reachable.atomic speakerless_reachable failed
  have before : speakerless.rig.activation = ⟨some 0, [1], [], true⟩ := by rfl
  have later : told.activation = ⟨some 0, [], [], true⟩ := by rfl
  refine ⟨failed, sameCard, before, later, ?_⟩
  rcases switched .device "Headphones" "Speaker" rfl with ⟨i, half, -⟩ | ⟨-, same⟩
  · exact ⟨i, half⟩
  · cases later.symm.trans (same.trans before)

end Session

end UseCase
