import Mathlib.Tactic.Common
import UseCase.Proofs.FaultPrefix
import UseCase.Proofs.Reachable

/-!
# What operations send

An operation is watched by carrying it out on a watched control surface. Watching changes nothing
(`perform_watch`), so that a `Report` can put side by side what the surface was told and how the
operation ended.

`Sends` says what an operation puts on record: if it succeeds these steps, all of them accepted, and
if it fails no more than the first of them. A sequence sends the steps of its plan, a stage those of
its sequence, and stages in a row send what is in their `script` (`sends_runStages`).
-/

namespace UseCase

variable {ε σ τ α β : Type}

/-- All steps of a sequence of a card, those of nested calls included; `verb` holds the entities
that can be called. -/
def Card.expand (c : Card) (verb : Option Verb) (s : Sequence) : List Step :=
  (s.plan verb c.info.controlDevice).steps

/-! ## Watching an operation -/

/-- An operation on a part is on the whole what it is on that part. -/
lemma Mirrors.onPart {get : τ → σ} {set : τ → σ → τ} (lawful : ∀ t s, get (set t s) = s)
    (x : EStateM ε σ α) : Mirrors get (onPart get set x) x := by
  intro t
  refine ⟨Outcome.answer_onPart get set x t, ?_⟩
  rw [Outcome.after_onPart, lawful]

namespace Rig

variable (b : Backend σ) {c : Card}

/-- The rig without the record of its control surface. -/
def unwatched (rig : Rig (Watched σ)) : Rig σ := ⟨rig.activation, rig.surface.surface⟩

/-- What the control surface of a rig was told. -/
def exchanges (rig : Rig (Watched σ)) : List Exchange := rig.surface.exchanges

/-- Questions to the surface are the same with a watched one. -/
lemma mirrors_onSurface {x : EStateM ε (Watched σ) α} {y : EStateM ε σ α}
    (same : Mirrors Watched.surface x y) : Mirrors unwatched (onSurface x) (onSurface y) := by
  intro rig
  obtain ⟨sameAnswer, sameState⟩ := same rig.surface
  rw [onSurface, onSurface, Outcome.answer_onPart, Outcome.answer_onPart, Outcome.after_onPart,
    Outcome.after_onPart]
  exact ⟨sameAnswer, congrArg (Rig.mk rig.activation) sameState⟩

/-- Running a sequence is the same with a watched surface. -/
lemma mirrors_run (label : String) (verb : Option Verb) (s : Sequence) :
    Mirrors unwatched (run b.watch c label verb s) (run b c label verb s) :=
  mirrors_onSurface (s.run_watch b c.info.controlDevice label verb)

/-- Asking for the active verb is the same with a watched surface. -/
lemma mirrors_activeVerb :
    Mirrors unwatched (activeVerb c : Op (Watched σ) Verb) (activeVerb c : Op σ Verb) := by
  intro rig
  rw [activeVerb_eq, activeVerb_eq, unwatched]
  cases verbNeeded c rig.activation <;> exact ⟨rfl, rfl⟩

/-- Asking for an entity is the same with a watched surface. -/
lemma mirrors_entity (v : Verb) (kind : Kind) (index : Nat) :
    Mirrors unwatched (entity v kind index : Op (Watched σ) Entity)
      (entity v kind index : Op σ Entity) := by
  rw [entity, entity]
  cases v.entity? kind index with
  | none => exact .throw _
  | some e => exact .pure e

/-- A system starts on a watched surface as on the surface itself. -/
lemma mirrors_runBoot : Mirrors unwatched (runBoot b.watch c) (runBoot b c) := by
  have calls {α : Type} (x : EStateM ControlFault σ α) :
      Mirrors unwatched
        (onSurface
          ((UseCase.onPart Watched.surface (fun w s => { w with surface := s }) x).adaptExcept
            bootFault))
        (onSurface (x.adaptExcept bootFault)) :=
    mirrors_onSurface (.adaptExcept _ (.onPart (fun _ _ => rfl) x))
  refine .bind (calls b.changed) fun changed => ?_
  cases changed with
  | true => exact .bind (mirrors_run b _ _ _) fun _ => calls b.store
  | false => exact calls b.restore

/-- The sequence of a stage is run on a watched surface as on the surface itself. -/
lemma mirrors_task (stage : Stage) : Mirrors unwatched (stage.task b.watch c) (stage.task b c) := by
  cases stage with
  | fixedBoot => exact mirrors_run b _ _ _
  | boot => exact mirrors_runBoot b
  | defaults => exact mirrors_run b _ _ _
  | forget => exact .pure ()
  | enterVerb index =>
    rw [Stage.task, Stage.task]
    cases c.verb? index with
    | none => exact .throw _
    | some v => exact mirrors_run b _ _ _
  | leaveVerb => exact .bind mirrors_activeVerb fun v => mirrors_run b _ _ _
  | start kind index | stop kind index =>
    exact .bind mirrors_activeVerb fun v => .bind (mirrors_entity v kind index) fun e =>
      mirrors_run b _ _ _
  | transition kind old new =>
    refine .bind mirrors_activeVerb fun v => .bind (mirrors_entity v kind old) fun e =>
      .bind (mirrors_entity v kind new) fun target => ?_
    cases e.transitionTo? target.name with
    | none => exact .pure ()
    | some s => exact mirrors_run b _ _ _

/-- Running stages is the same with a watched surface. -/
lemma mirrors_runStages (stages : List Stage) :
    Mirrors unwatched (runStages b.watch c stages) (runStages b c stages) := by
  induction stages with
  | nil => exact .pure ()
  | cons stage rest ih =>
    exact .bind (.bind (mirrors_task b stage) fun _ _ => ⟨rfl, rfl⟩) fun _ => ih

/-- Watching an operation changes neither its answer nor the rig. -/
theorem perform_watch {rig : Rig (Watched σ)} (fits : rig.activation.Fits c) (op : Operation) :
    answer (perform b.watch c op rig) = answer (perform b c op rig.unwatched) ∧
      (after (perform b.watch c op rig)).unwatched = after (perform b c op rig.unwatched) := by
  have fits' : rig.unwatched.activation.Fits c := fits
  rw [perform_eq_agenda b.watch fits, perform_eq_agenda b fits', unwatched]
  cases agenda c rig.activation op with
  | ok stages => exact mirrors_runStages b stages rig
  | error f => exact ⟨rfl, rfl⟩

end Rig

/-! ## What is put on record -/

/-- What an operation adds to a record: if it succeeds these steps, all accepted, and if it fails no
more than the first of them. -/
def Sends (record : τ → List Exchange) (x : EStateM ε τ α) (t : τ) (steps : List Step) : Prop :=
  match x t with
  | .ok _ t' => record t' = record t ++ steps.map .accepted
  | .error _ t' => ∃ told, record t' = record t ++ told ∧ told.map Exchange.step <+: steps

namespace Sends

variable {record : τ → List Exchange} {x : EStateM ε τ α} {t t' : τ} {steps : List Step}

/-- An operation that succeeds has had all its steps accepted. -/
lemma of_ok {a : α} (sends : Sends record x t steps) (done : x t = .ok a t') :
    record t' = record t ++ steps.map .accepted := by
  rwa [Sends, done] at sends

/-- An operation that fails has told of no more than the first of its steps. -/
lemma of_error {e : ε} (sends : Sends record x t steps) (failed : x t = .error e t') :
    ∃ told, record t' = record t ++ told ∧ told.map Exchange.step <+: steps := by
  rwa [Sends, failed] at sends

/-- However an operation ends, it has sent no more than the first of its steps. -/
lemma begins (sends : Sends record x t steps) :
    ∃ told, record (after (x t)) = record t ++ told ∧ told.map Exchange.step <+: steps := by
  cases found : x t with
  | ok a t' =>
    refine ⟨_, sends.of_ok found, ?_⟩
    simp only [Sequence.steps_map_accepted, List.prefix_rfl]
  | error e t' => exact sends.of_error found

/-- Operations that end in the same way send the same. -/
lemma congr {y : EStateM ε τ α} (sends : Sends record x t steps) (same : y t = x t) :
    Sends record y t steps := by
  rwa [Sends, same]

/-- An operation that leaves the record alone sends nothing. -/
lemma nothing (silent : record (after (x t)) = record t) : Sends record x t [] := by
  rw [Sends]
  cases found : x t with
  | ok a t' =>
    rw [found] at silent
    exact silent.trans (List.append_nil _).symm
  | error e t' =>
    rw [found] at silent
    exact ⟨[], silent.trans (List.append_nil _).symm, List.prefix_rfl⟩

/-- One operation after another sends the steps of both. -/
lemma bind {f : α → EStateM ε τ β} {first second : List Step} (sends : Sends record x t first)
    (next : ∀ a t', x t = .ok a t' → Sends record (f a) t' second) :
    Sends record (x >>= f) t (first ++ second) := by
  rw [Sends, Outcome.bind_apply]
  cases found : x t with
  | error e mid =>
    obtain ⟨told, recorded, begun⟩ := sends.of_error found
    exact ⟨told, recorded, begun.trans (List.prefix_append _ _)⟩
  | ok a mid =>
    have reached := sends.of_ok found
    have later := next a mid found
    simp only
    cases ended : f a mid with
    | ok r t' =>
      have recorded := later.of_ok ended
      simp only
      rw [recorded, reached, List.map_append, List.append_assoc]
    | error e t' =>
      obtain ⟨told, recorded, begun⟩ := later.of_error ended
      refine ⟨first.map .accepted ++ told, ?_, ?_⟩
      · rw [recorded, reached, List.append_assoc]
      · rw [List.map_append, Sequence.steps_map_accepted]
        exact (List.prefix_append_right_inj first).mpr begun

/-- An operation that asks for something first sends what follows the answer. -/
lemma after_question {f : α → EStateM ε τ β} {a : α} (asked : x t = .ok a t)
    (sends : Sends record (f a) t steps) : Sends record (x >>= f) t steps :=
  sends.congr (Outcome.bind_ok asked)

/-- An operation that fails and changes nothing may be said to send any steps. -/
lemma refused {e : ε} (failed : x t = .error e t) : Sends record x t steps := by
  rw [Sends, failed]
  exact ⟨[], (List.append_nil _).symm, List.nil_prefix⟩

end Sends

/-- A step of a sequence is sent as it is. -/
lemma Sequence.sends_sendStep (b : Backend σ) (label : String) (count : Nat) (step : Step)
    (w : Watched σ) : Sends Watched.exchanges (sendStep b.watch label count step) w [step] := by
  rw [Sends, sendStep, Outcome.adaptExcept_apply]
  cases applied : b.apply step w.surface with
  | ok u s => rw [Backend.watch_accepts applied]; rfl
  | error cause s =>
    rw [Backend.watch_refuses applied]
    exact ⟨[.refused step cause], rfl, List.prefix_rfl⟩

/-- What a watched surface is told are the steps that are sent to it. -/
lemma Plan.sends_send (b : Backend σ) (label : String) (count : Nat) (steps : List Step)
    (w : Watched σ) : Sends Watched.exchanges (send b.watch label count steps) w steps := by
  induction steps generalizing count w with
  | nil => exact .nothing rfl
  | cons step rest ih =>
    exact (Sequence.sends_sendStep b label count step w).bind fun _ w' _ => ih (count + 1) w'

/-- What a watched surface is told are the steps of the plan that is performed. -/
lemma Plan.sends_perform (b : Backend σ) (label : String) (p : Plan) (w : Watched σ) :
    Sends Watched.exchanges (p.perform b.watch label) w p.steps := by
  rw [← List.append_nil p.steps]
  refine (sends_send b label 0 p.steps w).bind fun _ w' _ => .nothing ?_
  cases p.fault <;> rfl

namespace Rig

variable (b : Backend σ) {c : Card} {a : Activation} {v : Verb}

/-- A sequence that is run sends the steps to which it expands. -/
lemma sends_run (label : String) (verb : Option Verb) (s : Sequence) (rig : Rig (Watched σ)) :
    Sends exchanges (run b.watch c label verb s) rig (c.expand verb s) := by
  have sent := Plan.sends_perform b label (s.plan verb c.info.controlDevice) rig.surface
  rw [← Sequence.run_eq_perform] at sent
  rw [Sends] at sent ⊢
  dsimp only [run, onSurface, onPart]
  cases found : s.run b.watch c.info.controlDevice label verb rig.surface with
  | ok u w =>
    rw [found] at sent
    exact sent
  | error f w =>
    rw [found] at sent
    exact sent

namespace Stage

/-- The steps of a stage. What is sent at start-up depends on the control surface and is left out.
-/
def steps (c : Card) (a : Activation) : Stage → List Step
  | fixedBoot => c.expand none c.fixedBoot
  | boot | forget => []
  | defaults => c.expand none c.defaultsSequence
  | enterVerb index => (c.verb? index).elim [] fun v => c.expand (some v) v.enable
  | leaveVerb => (a.activeVerb? c).elim [] fun v => c.expand (some v) v.disable
  | start kind index =>
    (a.activeVerb? c).elim [] fun v =>
      (v.entity? kind index).elim [] fun e => c.expand (some v) e.enable
  | stop kind index =>
    (a.activeVerb? c).elim [] fun v =>
      (v.entity? kind index).elim [] fun e => c.expand (some v) e.disable
  | transition kind old new =>
    (a.activeVerb? c).elim [] fun v =>
      (v.entity? kind old).elim [] fun e =>
        (v.entity? kind new).elim [] fun target =>
          (e.transitionTo? target.name).elim [] fun s => c.expand (some v) s

/-- A stage that needs the active verb sends nothing else than what it sends with it. -/
lemma sends_activeVerb {next : Verb → Op (Watched σ) Unit} {script : Verb → List Step}
    {rig : Rig (Watched σ)} (sends : ∀ v, Sends exchanges (next v) rig (script v)) :
    Sends exchanges (activeVerb c >>= next) rig
      ((rig.activation.activeVerb? c).elim [] script) := by
  cases active : rig.activation.activeVerb? c with
  | some v => exact .after_question (activeVerb_apply active) (sends v)
  | none =>
    refine .refused (e := .notFound .activeVerb) ?_
    rw [Outcome.bind_apply, activeVerb_eq, verbNeeded, active]
    rfl

/-- A stage that needs an entity sends nothing else than what it sends with it. -/
lemma sends_entity {kind : Kind} {index : Nat} {next : Entity → Op (Watched σ) Unit}
    {script : Entity → List Step} {rig : Rig (Watched σ)}
    (sends : ∀ e, Sends exchanges (next e) rig (script e)) :
    Sends exchanges (entity v kind index >>= next) rig ((v.entity? kind index).elim [] script) := by
  cases found : v.entity? kind index with
  | some e => exact .after_question (entity_apply found rig) (sends e)
  | none =>
    refine .refused (e := .configuration (.missingEntity kind index v.name)) ?_
    rw [Outcome.bind_apply, entity, found]
    rfl

/-- The sequence of a stage puts its steps on record. -/
lemma sends_task {stage : Stage} (other : stage ≠ .boot) (rig : Rig (Watched σ)) :
    Sends exchanges (stage.task b.watch c) rig (stage.steps c rig.activation) := by
  cases stage with
  | boot => exact absurd rfl other
  | forget => exact .nothing rfl
  | fixedBoot | defaults => exact sends_run b _ _ _ rig
  | enterVerb index =>
    rw [task, steps]
    cases c.verb? index with
    | none => exact .refused rfl
    | some v => exact sends_run b _ _ _ rig
  | leaveVerb => exact sends_activeVerb fun v => sends_run b _ _ _ rig
  | start kind index | stop kind index =>
    exact sends_activeVerb fun v => sends_entity fun e => sends_run b _ _ _ rig
  | transition kind old new =>
    refine sends_activeVerb fun v => sends_entity fun e => sends_entity fun target => ?_
    cases e.transitionTo? target.name with
    | none => exact .nothing rfl
    | some s => exact sends_run b _ _ _ rig

/-- A stage other than the boot sends its steps. -/
lemma sends_run {stage : Stage} (other : stage ≠ .boot) (rig : Rig (Watched σ)) :
    Sends exchanges (stage.run b.watch c) rig (stage.steps c rig.activation) := by
  rw [← List.append_nil (stage.steps c rig.activation)]
  exact (stage.sends_task b other rig).bind fun _ rig' _ => .nothing rfl

end Stage

/-- The steps of stages in a row. -/
def script (c : Card) : Activation → List Stage → List Step
  | _, [] => []
  | a, stage :: rest => stage.steps c a ++ script c (stage.effect a) rest

/-- The script of stages is that of the first of them, and then that of the others from there. -/
lemma script_append (first second : List Stage) :
    script c a (first ++ second) = script c a first ++ script c (effects first a) second := by
  induction first generalizing a with
  | nil => rfl
  | cons stage rest ih =>
    rw [List.cons_append, script, script, ih, List.append_assoc]
    rfl

/-- Stages in a row put their steps on record. -/
theorem sends_runStages {stages : List Stage} (other : .boot ∉ stages) (rig : Rig (Watched σ)) :
    Sends exchanges (runStages b.watch c stages) rig (script c rig.activation stages) := by
  induction stages generalizing rig with
  | nil => exact .nothing rfl
  | cons stage rest ih =>
    have here : stage ≠ .boot := fun same => other (same ▸ List.mem_cons_self)
    have later : .boot ∉ rest := fun member => other (List.mem_cons_of_mem stage member)
    refine (stage.sends_run b here rig).bind fun _ rig' done => ?_
    rw [← Stage.activation_of_ok done]
    exact ih later rig'

/-! ## Reports -/

/-- What an operation comes to: the exchanges with the control surface, the answer, and the
activation at its end. -/
structure Report where
  exchanges : List Exchange
  answer : Except Fault Unit
  activation : Activation
  deriving DecidableEq

/-- What carrying out an operation comes to on a control surface. -/
def report (b : Backend σ) (c : Card) (op : Operation) (a : Activation) (surface : σ) : Report where
  exchanges := (after (perform b.watch c op ⟨a, ⟨surface, []⟩⟩)).exchanges
  answer := answer (perform b c op ⟨a, surface⟩)
  activation := (after (perform b c op ⟨a, surface⟩)).activation

/-- An operation that succeeds has sent the steps of its stages and had their effects; however it
ends, it has sent no more than the first of these steps. -/
theorem report_of_agenda (fits : a.Fits c) {op : Operation} {stages : List Stage}
    (planned : agenda c a op = .ok stages) (other : .boot ∉ stages) (surface : σ) :
    let told := report b c op a surface
    (told.answer = .ok () →
      told.exchanges = (script c a stages).map .accepted ∧ told.activation = effects stages a) ∧
    told.exchanges.map Exchange.step <+: script c a stages := by
  intro told
  let rig : Rig (Watched σ) := ⟨a, ⟨surface, []⟩⟩
  have fits' : rig.activation.Fits c := fits
  have follows : perform b.watch c op rig = runStages b.watch c stages rig := by
    rw [perform_eq_agenda b.watch fits', planned, follow]
  have sends := (sends_runStages b other rig).congr follows
  obtain ⟨sameAnswer, sameRig⟩ := perform_watch b fits' op
  refine ⟨fun good => ?_, ?_⟩
  · have done := eq_ok_of_answer (sameAnswer.trans good)
    refine ⟨(sends.of_ok done).trans (List.nil_append _), ?_⟩
    rw [done] at follows sameRig
    have ended := activation_of_runStages b.watch follows.symm
    exact (congrArg Rig.activation sameRig).symm.trans ended
  · obtain ⟨sent, recorded, begun⟩ := sends.begins
    have all : told.exchanges = sent := recorded.trans (List.nil_append _)
    rwa [all]

end Rig

end UseCase
