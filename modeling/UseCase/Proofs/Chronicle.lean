import Mathlib.Data.List.Chain
import Mathlib.Tactic.Common
import UseCase.Proofs.Reachable
import UseCase.Recorder
import UseCase.Sample

/-!
# Starts and stops

A chronicle is a run of operations from a fresh activation, with all stages that they completed. Its
`moves` are the starts and stops of entities: an entity is started when its enable sequence was
completed, or a sequence that leads directly to it while it was not active, and it is stopped when
its disable sequence was completed, or a sequence that leads directly away from it. What nested
calls run is not a move.

The main statement `Chronicle.alternating` says that for each entity starts and stops alternate,
beginning with a start, and that at every moment an entity is active exactly if its last move is a
start. One stage has at most one move of an entity, and it has one exactly if the stage makes the
entity active or inactive (`Stage.Ready.happens`).
-/

namespace UseCase

namespace Rig

/-- What can happen to an entity. -/
inductive Turn where
  | start
  | stop
  deriving DecidableEq, Repr

/-- An entity of a card: the position of its verb, its kind and its position. -/
structure Member where
  verb : Nat
  kind : Kind
  index : Nat
  deriving DecidableEq, Repr

/-- A start or a stop of an entity. -/
structure Move where
  turn : Turn
  member : Member
  deriving DecidableEq, Repr

/-- Whether an entity is active. -/
def Active (a : Activation) (m : Member) : Prop :=
  a.verb = some m.verb ∧ m.index ∈ a.active m.kind

/-- A start or a stop of an entity of the active verb. -/
def moveOf (a : Activation) (turn : Turn) (kind : Kind) (index : Nat) : List Move :=
  a.verb.toList.map fun v => ⟨turn, v, kind, index⟩

/-- The moves of a completed stage. -/
def Stage.moves (a : Activation) : Stage → List Move
  | start kind index => moveOf a .start kind index
  | stop kind index => moveOf a .stop kind index
  | transition kind old new =>
    moveOf a .stop kind old ++ if a.isActive kind new then [] else moveOf a .start kind new
  | _ => []

/-- The moves of completed stages in a row. -/
def moves : Activation → List Stage → List Move
  | _, [] => []
  | a, stage :: rest => stage.moves a ++ moves (stage.effect a) rest

/-- What happened to one entity. -/
def turnsOf (m : Member) (moves : List Move) : List Turn :=
  (moves.filter fun move => move.member = m).map Move.turn

/-- Starts and stops alternate, beginning with a start, and the last one tells whether something is
on. -/
structure Alternates (turns : List Turn) (on : Prop) : Prop where
  chain : turns.IsChain (· ≠ ·)
  first : ∀ turn ∈ turns.head?, turn = .start
  last : on ↔ turns.getLast? = some .start

/-- A run of operations from a fresh activation, whatever control surfaces they meet and however
they end: the stages that they completed, and the activation at the end. -/
inductive Chronicle (c : Card) : List Stage → Activation → Prop
  | opened : Chronicle c [] .fresh
  | performed {past : List Stage} {a : Activation} {σ : Type} (b : Backend σ) (op : Operation)
    (surface : σ) : Chronicle c past a →
    Chronicle c (past ++ log b c op ⟨a, surface⟩) (after (perform b c op ⟨a, surface⟩)).activation

variable {c : Card} {a : Activation} {kind : Kind} {m : Member} {i index : Nat}

/-! ## Who is active -/

/-- Entities of one verb and one kind are told apart by their positions. -/
lemma member_inj {other : Nat} : Member.mk i kind other = ⟨i, kind, index⟩ ↔ other = index := by
  rw [Member.mk.injEq, and_iff_right rfl, and_iff_right rfl]

/-- An entity of the active verb is active if it is among the active entities of its kind. -/
lemma active_of_here (here : a.verb = some i) : Active a ⟨i, kind, index⟩ ↔ index ∈ a.active kind :=
  and_iff_right here

/-- A change of the active entities of a kind matters to those of this kind alone. -/
lemma active_setActive_of_apart {indices : List Nat} (here : a.verb = some i)
    (apart : ¬ ∃ index, m = ⟨i, kind, index⟩) :
    Active (a.setActive kind indices) m ↔ Active a m := by
  rw [Active, Active, Activation.verb_setActive, here]
  refine and_congr_right fun same => ?_
  have differs : m.kind ≠ kind := by
    rintro rfl
    cases same
    exact apart ⟨m.index, rfl⟩
  rw [Activation.active_setActive_of_ne differs]

/-- After an entity was added it is active, beside the others. -/
lemma active_add (here : a.verb = some i) :
    Active (a.add kind index) m ↔ Active a m ∨ m = ⟨i, kind, index⟩ := by
  have here' : (a.add kind index).verb = some i := Activation.verb_setActive.trans here
  by_cases own : ∃ index, m = ⟨i, kind, index⟩
  · obtain ⟨other, rfl⟩ := own
    rw [active_of_here here', active_of_here here, Activation.mem_add, member_inj]
  · rw [Activation.add, active_setActive_of_apart here own]
    exact (or_iff_left fun same => own ⟨index, same⟩).symm

/-- After an entity was removed the others are active. -/
lemma active_remove (here : a.verb = some i) :
    Active (a.remove kind index) m ↔ Active a m ∧ m ≠ ⟨i, kind, index⟩ := by
  have here' : (a.remove kind index).verb = some i := Activation.verb_setActive.trans here
  by_cases own : ∃ index, m = ⟨i, kind, index⟩
  · obtain ⟨other, rfl⟩ := own
    rw [active_of_here here', active_of_here here, Activation.mem_remove, ne_eq, ne_eq, member_inj]
  · rw [Activation.remove, active_setActive_of_apart here own]
    exact (and_iff_left fun same => own ⟨index, same⟩).symm

/-- After an entity was put into the place of another one it is active, and the other is not. -/
lemma active_replace (here : a.verb = some i) {old new : Nat} (once : (a.active kind).Nodup)
    (on : old ∈ a.active kind) :
    Active (a.replace kind old new) m ↔
      (Active a m ∧ m ≠ ⟨i, kind, old⟩) ∨ m = ⟨i, kind, new⟩ := by
  have here' : (a.replace kind old new).verb = some i := Activation.verb_setActive.trans here
  by_cases own : ∃ index, m = ⟨i, kind, index⟩
  · obtain ⟨other, rfl⟩ := own
    rw [active_of_here here', active_of_here here, Activation.mem_replace once on, ne_eq, ne_eq,
      member_inj, member_inj]
  · rw [Activation.replace, active_setActive_of_apart here own]
    refine ((or_iff_left fun same => own ⟨new, same⟩).trans ?_).symm
    exact and_iff_left fun same => own ⟨old, same⟩

/-! ## What happens in a stage -/

/-- The turns of a member are those in the first moves and then those in the second. -/
lemma turnsOf_append (first second : List Move) :
    turnsOf m (first ++ second) = turnsOf m first ++ turnsOf m second := by
  rw [turnsOf, List.filter_append, List.map_append]
  rfl

/-- The entity that moves takes a turn, and no other does. -/
lemma turnsOf_moveOf (here : a.verb = some i) (turn : Turn) :
    turnsOf m (moveOf a turn kind index) = if m = ⟨i, kind, index⟩ then [turn] else [] := by
  rw [moveOf, here, turnsOf, Option.toList_some, List.map_singleton]
  split_ifs with same
  · simp [same]
  · simp [Ne.symm same]

/-- What can happen to an entity in a stage. -/
inductive Happens (before after : Prop) : List Turn → Prop
  | nothing : (after ↔ before) → Happens before after []
  | start : ¬ before → after → Happens before after [.start]
  | stop : before → ¬ after → Happens before after [.stop]

/-- An entity that becomes active is started. -/
lemma Happens.of_add {index : Nat} (here : a.verb = some i) (absent : index ∉ a.active kind)
    (m : Member) :
    Happens (Active a m) (Active (a.add kind index) m)
      (turnsOf m (moveOf a .start kind index)) := by
  rw [turnsOf_moveOf here, active_add here]
  split_ifs with own
  · subst own
    exact .start (fun on => absent ((active_of_here here).mp on)) (.inr rfl)
  · exact .nothing (or_iff_left own)

/-- An entity that is no longer active is stopped. -/
lemma Happens.of_remove {index : Nat} (here : a.verb = some i) (on : index ∈ a.active kind)
    (m : Member) :
    Happens (Active a m) (Active (a.remove kind index) m)
      (turnsOf m (moveOf a .stop kind index)) := by
  rw [turnsOf_moveOf here, active_remove here]
  split_ifs with own
  · subst own
    exact .stop ((active_of_here here).mpr on) fun staying => staying.2 rfl
  · exact .nothing (and_iff_left own)

/-- If an entity takes the place of another one, that one is stopped and it is started. -/
lemma Happens.of_replace {old new : Nat} (here : a.verb = some i)
    (once : (a.active kind).Nodup) (on : old ∈ a.active kind) (absent : new ∉ a.active kind)
    (m : Member) :
    Happens (Active a m) (Active (a.replace kind old new) m)
      (turnsOf m (moveOf a .stop kind old ++ moveOf a .start kind new)) := by
  have other : new ≠ old := by
    rintro rfl
    exact absent on
  rw [turnsOf_append, turnsOf_moveOf here, turnsOf_moveOf here, active_replace here once on]
  by_cases leaves : m = ⟨i, kind, old⟩
  · subst leaves
    have differs : ¬ Member.mk i kind old = ⟨i, kind, new⟩ := fun same =>
      other (member_inj.mp same).symm
    rw [if_pos rfl, if_neg differs]
    exact .stop ((active_of_here here).mpr on) fun staying =>
      staying.elim (fun kept => kept.2 rfl) differs
  · rw [if_neg leaves, and_iff_left leaves]
    split_ifs with joins
    · subst joins
      exact .start (fun on => absent ((active_of_here here).mp on)) (.inr rfl)
    · exact .nothing (or_iff_left joins)

/-- A stage that is ready has at most one move of an entity: it starts one that is not active, and
then it is, or it stops one that is active, and then it is not. -/
lemma Stage.Ready.happens {stage : Stage} (fits : a.Fits c) (ready : stage.Ready c a) (m : Member) :
    Happens (Active a m) (Active (stage.effect a) m) (turnsOf m (stage.moves a)) := by
  cases stage with
  | fixedBoot | boot => exact .nothing Iff.rfl
  | defaults | forget =>
    refine .nothing ?_
    rw [Active, Stage.effect, Activation.active_defaults]
    rfl
  | enterVerb index =>
    -- Nothing is active when a verb is entered, neither before nor after.
    obtain ⟨-, idle⟩ := ready
    refine .nothing ⟨fun on => ?_, fun on => ?_⟩
    · have member := on.2
      rw [Stage.effect, Activation.active_enter, fits.idle idle] at member
      cases member
    · have verb := on.1
      rw [idle] at verb
      cases verb
  | leaveVerb =>
    obtain ⟨-, none⟩ := ready
    refine .nothing ⟨fun on => ?_, fun on => ?_⟩
    · cases on.1
    · have member := on.2
      rw [none] at member
      cases member
  | start kind index =>
    obtain ⟨v, active, -, absent⟩ := ready
    obtain ⟨i, here, -⟩ := Option.bind_eq_some_iff.mp active
    exact .of_add here absent m
  | stop kind index =>
    obtain ⟨active, on⟩ := ready
    obtain ⟨v, active⟩ := Option.isSome_iff_exists.mp active
    obtain ⟨i, here, -⟩ := Option.bind_eq_some_iff.mp active
    exact .of_remove here on m
  | transition kind old new =>
    obtain ⟨v, active, on, -, -⟩ := ready
    obtain ⟨i, here, -⟩ := Option.bind_eq_some_iff.mp active
    rw [Stage.effect, Stage.moves]
    split_ifs with newActive
    · rw [List.append_nil]
      exact .of_remove here on m
    · exact .of_replace here (fits.once kind) on (fun on' => newActive (isActive_iff.mpr on')) m

/-! ## What happens in a run -/

namespace Alternates

variable {turns : List Turn} {before after : Prop}

/-- Nothing has happened to what was never on. -/
lemma nil (off : ¬ before) : Alternates [] before where
  chain := .nil
  first turn head := by cases head
  last := ⟨fun on => absurd on off, nofun⟩

/-- Another turn comes after the ones before it, if it is not the same as the last one. -/
lemma concat {turn : Turn} (alternates : Alternates turns before)
    (differs : ∀ last ∈ turns.getLast?, last ≠ turn) (begins : turns = [] → turn = .start)
    (tells : after ↔ turn = .start) : Alternates (turns ++ [turn]) after where
  chain := by
    refine List.isChain_append.mpr ⟨alternates.chain, .singleton turn, ?_⟩
    intro last ends next head
    cases head
    exact differs last ends
  first head begun := by
    cases turns with
    | nil =>
      cases begun
      exact begins rfl
    | cons first rest => exact alternates.first head begun
  last := by
    rw [List.getLast?_concat, Option.some.injEq]
    exact tells

/-- What happens to something that starts and stops in turns keeps them alternating. -/
lemma append {next : List Turn} (alternates : Alternates turns before)
    (happens : Happens before after next) : Alternates (turns ++ next) after := by
  cases happens with
  | nothing same =>
    rw [List.append_nil]
    exact ⟨alternates.chain, alternates.first, same.trans alternates.last⟩
  | start off on =>
    refine alternates.concat (fun last ends same => ?_) (fun _ => rfl) (iff_of_true on rfl)
    rw [same] at ends
    exact off (alternates.last.mpr ends)
  | stop on off =>
    have ended : turns.getLast? = some .start := alternates.last.mp on
    refine alternates.concat (fun last ends => ?_) (fun none => ?_) (iff_of_false off nofun)
    · rw [ended] at ends
      cases ends
      nofun
    · rw [none] at ended
      cases ended

end Alternates

/-- Stages move what the first of them move, and then what the others move from there. -/
lemma moves_append (first second : List Stage) (a : Activation) :
    moves a (first ++ second) = moves a first ++ moves (effects first a) second := by
  induction first generalizing a with
  | nil => rfl
  | cons stage rest ih =>
    rw [List.cons_append, moves, moves, ih, List.append_assoc]
    rfl

/-- In chained stages starts and stops of an entity alternate, and the last of them tells whether it
is active. -/
lemma Chained.alternates {stages : List Stage} (chained : Chained c .fresh stages) (m : Member) :
    Alternates (turnsOf m (moves .fresh stages)) (Active (effects stages .fresh) m) := by
  induction stages using List.reverseRecOn with
  | nil => exact .nil nofun
  | append_singleton done stage ih =>
    obtain ⟨begun, ready, -⟩ := chained_append.mp chained
    have fits : (effects done .fresh).Fits c := begun.fits (.fresh c) List.prefix_rfl
    rw [moves_append, turnsOf_append, effects_append, moves, moves, List.append_nil]
    exact (ih begun).append (ready.happens fits m)

namespace Chronicle

variable {past : List Stage}

/-- The activation at the end of a chronicle is what its stages made of the fresh one, and each of
them was ready when its turn came. -/
lemma account (chronicle : Chronicle c past a) :
    a = effects past .fresh ∧ Chained c .fresh past := by
  induction chronicle with
  | opened => exact ⟨rfl, trivial⟩
  | @performed past a σ b op surface before ih =>
    obtain ⟨now, chained⟩ := ih
    have fits : a.Fits c := by
      rw [now]
      exact chained.fits (.fresh c) List.prefix_rfl
    have fits' : (Rig.mk a surface).activation.Fits c := fits
    refine ⟨?_, chained_append.mpr ⟨chained, ?_⟩⟩
    · rw [perform_activation fits', effects_append, ← now]
    · rw [← now]
      exact log_chained fits' op

/-- Whatever operations there were since the card was opened, on whatever control surfaces, and
however they ended: the activation is what the stages made of it that were completed, and nothing
else. And at every moment of the run, also between two stages of an operation, the starts and stops
of each entity alternate, beginning with a start, and the entity is active exactly if the last of
them is a start.

The stages are those of the operations: each of these runs, on every control surface, the stages of
its agenda until a sequence fails. -/
theorem alternating (chronicle : Chronicle c past a) :
    (∀ (σ : Type) (b : Backend σ) (op : Operation) (surface : σ),
      perform b c op ⟨a, surface⟩ = follow b c (agenda c a op) ⟨a, surface⟩) ∧
    a = effects past .fresh ∧
    ∀ moment, moment <+: past → ∀ m,
      Alternates (turnsOf m (moves .fresh moment)) (Active (effects moment .fresh) m) := by
  obtain ⟨now, chained⟩ := chronicle.account
  refine ⟨fun σ b op surface => ?_, now, fun moment begun m => ?_⟩
  · have fits : (Rig.mk a surface).activation.Fits c := by
      rw [now]
      exact chained.fits (.fresh c) List.prefix_rfl
    exact perform_eq_agenda b fits op
  · exact (chained.beginning begun).alternates m

end Chronicle

/-- Stages of a run on the sample card: a verb and a device, another device in its place, and the
first stage of an attempt to leave the verb. -/
def interrupted : List Stage :=
  [.defaults, .enterVerb 0, .start .device 0, .transition .device 0 1, .stop .device 1]

/-- The run in which the stages were completed. The writes to some controls fail, so the speaker is
not disabled when it is asked for, and the verb is not left. -/
lemma interrupted_chronicle : Chronicle Sample.card interrupted ⟨some 0, [], [], true⟩ := by
  have next {past past' : List Stage} {a a' : Activation} (op : Operation) (failing : List String)
      (before : Chronicle Sample.card past a)
      (logs : log Recorder.backend Sample.card op
        ⟨a, { Recorder.fresh with failingControls := failing }⟩ = past')
      (leads : (after (perform Recorder.backend Sample.card op
        ⟨a, { Recorder.fresh with failingControls := failing }⟩)).activation = a') :
      Chronicle Sample.card (past ++ past') a' :=
    logs ▸ leads ▸ before.performed Recorder.backend op _
  have verb : Chronicle Sample.card [.defaults, .enterVerb 0] ⟨some 0, [], [], true⟩ :=
    next (.command (.setVerb "HiFi")) [] .opened (by decide) (by decide)
  have speaker : Chronicle Sample.card [.defaults, .enterVerb 0, .start .device 0]
      ⟨some 0, [0], [], true⟩ :=
    next (.command (.enable .device "Speaker")) [] verb (by decide) (by decide)
  have stuck : Chronicle Sample.card [.defaults, .enterVerb 0, .start .device 0]
      ⟨some 0, [0], [], true⟩ :=
    next (.command (.disable .device "Speaker")) ["Speaker off"] speaker (by decide) (by decide)
  have headphones : Chronicle Sample.card
      [.defaults, .enterVerb 0, .start .device 0, .transition .device 0 1]
      ⟨some 0, [1], [], true⟩ :=
    next (.command (.switch .device "Speaker" "Headphones")) [] stuck (by decide) (by decide)
  exact next .reset ["HiFi off"] headphones (by decide) (by decide)

/-- The headphones were started once and stopped once. They are active in between, and not at the
end. -/
theorem interrupted_alternating :
    let headphones : Member := ⟨0, .device, 1⟩
    let begun := interrupted.take 4
    Chronicle Sample.card interrupted ⟨some 0, [], [], true⟩ ∧ begun <+: interrupted ∧
    turnsOf headphones (moves .fresh begun) = [.start] ∧
    Active (effects begun .fresh) headphones ∧
    turnsOf headphones (moves .fresh interrupted) = [.start, .stop] ∧
    ¬ Active (effects interrupted .fresh) headphones := by
  intro headphones begun
  have early : begun <+: interrupted := List.take_prefix 4 interrupted
  have started : turnsOf headphones (moves .fresh begun) = [.start] := by decide
  have stopped : turnsOf headphones (moves .fresh interrupted) = [.start, .stop] := by decide
  obtain ⟨-, -, alternates⟩ := Chronicle.alternating interrupted_chronicle
  have middle := (alternates begun early headphones).last
  have last := (alternates interrupted List.prefix_rfl headphones).last
  rw [started] at middle
  rw [stopped] at last
  refine ⟨interrupted_chronicle, early, started, middle.mpr rfl, stopped, fun on => ?_⟩
  cases last.mp on

end Rig

end UseCase
