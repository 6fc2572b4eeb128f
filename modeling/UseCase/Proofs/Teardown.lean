import Mathlib.Data.List.Nodup
import Mathlib.Tactic.Common
import UseCase.Proofs.Reachable
import UseCase.Recorder
import UseCase.Sample

/-!
# Teardown across retries

To leave a verb its modifiers and its devices are stopped, each by descending priority, and then the
verb itself is left. When one of the sequences fails, what was stopped stays so, and another attempt
ranks what is left. `Retries` are attempts in a row that all failed before the verb was left, each
on a control surface of its own. The main statement `Retries.teardown_once` says that together with
the attempt that succeeds they run each sequence once, in the order of a single undisturbed attempt.

The reason is that the ranking of what is left is what is left of the ranking: after the first
stages of a teardown, the others are the teardown of the activation that was reached
(`append_teardown_effects`).
-/

namespace UseCase.Rig

variable {c : Card} {a a' : Activation} {v : Verb} {kind : Kind} {index : Nat}

/-- Whether a stage takes something down. -/
def Stage.isTeardown : Stage → Bool
  | .stop _ _ | .leaveVerb => true
  | _ => false

/-! ## What is left of a teardown -/

/-- Without the item that is ranked first, the ranking is what came after it. -/
lemma rankBy_without {priority : Nat → Nat} {items rest : List Nat} {x : Nat} (once : items.Nodup)
    (ranked : Ranking.rankBy priority items = x :: rest) :
    Ranking.rankBy priority (items.filter fun i => i != x) = rest := by
  have distinct : (x :: rest).Nodup := by
    rw [← ranked]
    exact (Ranking.rankBy_perm items).nodup_iff.mpr once
  obtain ⟨alone, -⟩ := List.nodup_cons.mp distinct
  rw [Ranking.rankBy_filter, ranked, List.filter_cons_of_neg (by simp)]
  refine List.filter_eq_self.mpr fun i member => bne_iff_ne.mpr ?_
  rintro rfl
  exact alone member

/-- After the first stage of a teardown, unless it is the last one, the others are the teardown of
what was reached. -/
lemma teardown_of_cons {stage : Stage} {rest : List Stage} (once : ∀ kind, (a.active kind).Nodup)
    (here : teardown v a = stage :: rest) (other : stage ≠ .leaveVerb) :
    ∃ kind index, stage = .stop kind index ∧ teardown v (a.remove kind index) = rest := by
  rw [teardown] at here
  -- As long as a modifier is active it comes first; the devices only follow when none is left.
  cases modifiers : Ranking.rankBy (priorityAt v .modifier) (a.active .modifier) with
  | cons i others =>
    rw [modifiers] at here
    obtain ⟨rfl, rfl⟩ := List.cons.inj here
    refine ⟨.modifier, i, rfl, ?_⟩
    have devices : (a.remove .modifier i).active .device = a.active .device := rfl
    rw [teardown, devices, Activation.remove, Activation.active_setActive_self,
      rankBy_without (once .modifier) modifiers]
    rfl
  | nil =>
    rw [modifiers] at here
    cases devices : Ranking.rankBy (priorityAt v .device) (a.active .device) with
    | cons i others =>
      rw [devices] at here
      obtain ⟨rfl, rfl⟩ := List.cons.inj here
      refine ⟨.device, i, rfl, ?_⟩
      have same : (a.remove .device i).active .modifier = a.active .modifier := rfl
      rw [teardown, same, modifiers, Activation.remove, Activation.active_setActive_self,
        rankBy_without (once .device) devices]
      rfl
    | nil =>
      rw [devices] at here
      obtain ⟨rfl, -⟩ := List.cons.inj here
      exact absurd rfl other

/-- All stages of a teardown take something down. -/
lemma isTeardown_of_mem {stage : Stage} (member : stage ∈ teardown v a) : stage.isTeardown := by
  rcases cases_of_mem_teardown member with ⟨kind, index, rfl⟩ | rfl
  · rfl
  · rfl

/-- The last stage of a teardown is the one that leaves the verb, and it is no other. -/
lemma teardown_eq_concat (v : Verb) (a : Activation) :
    ∃ stops, teardown v a = stops ++ [.leaveVerb] ∧ .leaveVerb ∉ stops := by
  refine ⟨_, (List.append_assoc _ _ _).symm, fun member => ?_⟩
  rcases List.mem_append.mp member with modifier | device
  · obtain ⟨i, -, h⟩ := List.mem_map.mp modifier
    cases h
  · obtain ⟨i, -, h⟩ := List.mem_map.mp device
    cases h

/-- Some stages of a teardown that leave the verb active. -/
structure Begun (v : Verb) (a : Activation) (done : List Stage) : Prop where
  first : done <+: teardown v a
  staying : .leaveVerb ∉ done

/-- The first stages of a teardown leave the verb active if they are not all. -/
lemma Begun.of_first {done : List Stage} (first : done <+: teardown v a)
    (some : done ≠ teardown v a) : Begun v a done := by
  obtain ⟨stops, whole, absent⟩ := teardown_eq_concat v a
  refine ⟨first, fun member => ?_⟩
  rw [whole] at first some
  rcases List.prefix_concat_iff.mp first with all | before
  · exact some all
  · exact absent (before.subset member)

/-- What is left after a teardown was begun: the stages that were not completed are the teardown of
what was reached, the verb is still active, and the entities are those that were not stopped, in
order. -/
lemma Begun.rest {done : List Stage} (once : ∀ kind, (a.active kind).Nodup)
    (begun : Begun v a done) :
    done ++ teardown v (effects done a) = teardown v a ∧ (effects done a).verb = a.verb ∧
      ∀ kind, (effects done a).active kind =
        (a.active kind).filter fun i => .stop kind i ∉ done := by
  induction done generalizing a with
  | nil => exact ⟨rfl, rfl, fun kind => by simp [effects]⟩
  | cons stage others ih =>
    obtain ⟨tail, here⟩ := begun.first
    -- The first stage stops an entity, and the others have begun the teardown of what it led to.
    have other : stage ≠ .leaveVerb := fun same => begun.staying (same ▸ List.mem_cons_self)
    obtain ⟨kind, index, rfl, later⟩ := teardown_of_cons once here.symm other
    have once' : ∀ k, ((a.remove kind index).active k).Nodup := by
      intro k
      rw [Activation.remove, Activation.active_setActive]
      split
      · rename_i same
        subst same
        exact (once k).filter _
      · exact once k
    obtain ⟨joined, verb, left⟩ := ih once' ⟨⟨tail, later.symm⟩,
      fun member => begun.staying (List.mem_cons_of_mem _ member)⟩
    change _ :: (others ++ teardown v (effects others (a.remove kind index))) = _ ∧
      (effects others (a.remove kind index)).verb = _ ∧
      ∀ k, (effects others (a.remove kind index)).active k = _
    refine ⟨?_, ?_, fun k => ?_⟩
    · rw [joined, later, ← here]
      rfl
    · exact verb.trans Activation.verb_setActive
    · rw [left k, Activation.remove, Activation.active_setActive]
      split
      · rename_i same
        subst same
        rw [List.filter_filter]
        refine List.filter_congr fun i _ => ?_
        simp only [List.mem_cons, Stage.stop.injEq, true_and, not_or, bne, Bool.and_comm,
          Bool.decide_and, decide_not, Bool.beq_eq_decide_eq]
      · rename_i differs
        refine List.filter_congr fun i _ => ?_
        simp [differs]

/-! ## One attempt -/

/-- An operation with the control surface that it meets. -/
structure Attempt where
  {σ : Type}
  backend : Backend σ
  surface : σ
  op : Operation

namespace Attempt

/-- Whether the operation leaves the active verb: a reset, or setting a verb that there is. -/
def Leaves (c : Card) (t : Attempt) : Prop :=
  match t.op with
  | .reset => True
  | .command (.setVerb name) => name = inactiveName ∨ (c.findVerb? name).isSome
  | _ => False

/-- How the attempt ends. -/
def outcome (c : Card) (a : Activation) (t : Attempt) : EStateM.Result Fault (Rig t.σ) Unit :=
  perform t.backend c t.op ⟨a, t.surface⟩

/-- The stages of the teardown that the attempt completes. -/
def torn (c : Card) (a : Activation) (t : Attempt) : List Stage :=
  (log t.backend c t.op ⟨a, t.surface⟩).filter Stage.isTeardown

/-- Whether the attempt fails before it has left the verb. -/
def FailsInTeardown (c : Card) (a : Activation) (t : Attempt) : Prop :=
  (∃ f, answer (t.outcome c a) = .error f) ∧ .leaveVerb ∉ t.torn c a

variable {t : Attempt}

/-- The agenda of an attempt is the teardown of the active verb and other stages after that. -/
lemma agenda_eq (leaves : t.Leaves c) (active : a.activeVerb? c = some v) :
    ∃ others, agenda c a t.op = .ok (teardown v a ++ others) ∧
      ∀ stage ∈ others, stage.isTeardown = false := by
  have departing : departure c a = teardown v a := by rw [departure, active]
  obtain ⟨backend, surface, op⟩ := t
  cases op with
  | reset =>
    refine ⟨[.forget], ?_, fun stage member => ?_⟩
    · rw [agenda, departing]
    · rw [List.mem_singleton.mp member]
      rfl
  | command command =>
    cases command with
    | setVerb name =>
      by_cases inactive : name = inactiveName
      · subst inactive
        refine ⟨[], by rw [agenda_quit, departing, List.append_nil], fun stage member => ?_⟩
        cases member
      · obtain ⟨index, found⟩ := Option.isSome_iff_exists.mp (leaves.resolve_left inactive)
        refine ⟨arrival a index, by rw [agenda_setVerb inactive found, departing], ?_⟩
        intro stage member
        rcases cases_of_mem_arrival member with rfl | rfl
        · rfl
        · rfl
    | fixedBoot | boot | defaults | enable _ _ | disable _ _ | switch _ _ _ => exact leaves.elim

/-- An attempt completes the whole teardown, or it begins it and its effect is that of the stages
that it completed. -/
lemma torn_cases (fits : a.Fits c) (leaves : t.Leaves c) (active : a.activeVerb? c = some v) :
    t.torn c a = teardown v a ∨ Begun v a (t.torn c a) ∧
      (after (t.outcome c a)).activation = effects (t.torn c a) a := by
  obtain ⟨others, planned, outside⟩ := agenda_eq leaves active
  let rig : Rig t.σ := ⟨a, t.surface⟩
  have ended : (after (t.outcome c a)).activation = effects (log t.backend c t.op rig) a :=
    perform_activation (show rig.activation.Fits c from fits) t.op
  have logged : log t.backend c t.op rig = completed t.backend c (teardown v a ++ others) rig := by
    simp only [log, rig, planned]
  have all {done : List Stage} (first : done <+: teardown v a) :
      done.filter Stage.isTeardown = done :=
    List.filter_eq_self.mpr fun stage member => isTeardown_of_mem (first.subset member)
  rw [torn, ended, logged, completed_append]
  cases run : runStages t.backend c (teardown v a) rig with
  | ok u rig' =>
    have none : (completed t.backend c others rig').filter Stage.isTeardown = [] := by
      refine List.filter_eq_nil_iff.mpr fun stage member => ?_
      rw [outside stage ((completed_begins t.backend c others rig').subset member)]
      exact Bool.false_ne_true
    left
    rw [List.filter_append, none, List.append_nil, all List.prefix_rfl]
  | error f rig' =>
    have first := completed_begins t.backend c (teardown v a) rig
    right
    simp only [all first]
    exact ⟨.of_first first (completed_of_error t.backend c run), trivial⟩

end Attempt

/-! ## Attempts in a row -/

/-- Attempts in a row that failed before they had left the verb: the stages of the teardown that
they completed together, and the activation that they led to. -/
inductive Retries (c : Card) (a : Activation) : List Stage → Activation → Prop
  | none : Retries c a [] a
  | again {done : List Stage} {a' : Activation} (t : Attempt) : Retries c a done a' → t.Leaves c →
    t.FailsInTeardown c a' → Retries c a (done ++ t.torn c a') (after (t.outcome c a')).activation

/-- After failed attempts, what they completed and the teardown of what they led to are the teardown
of the activation at first; the verb is still active and what was not stopped is, in order. -/
lemma Retries.rest (fits : a.Fits c) (active : a.activeVerb? c = some v) {done : List Stage}
    (retries : Retries c a done a') :
    a'.Fits c ∧ done ++ teardown v a' = teardown v a ∧ a'.verb = a.verb ∧
      ∀ kind, a'.active kind = (a.active kind).filter fun i => .stop kind i ∉ done := by
  induction retries with
  | none => exact ⟨fits, rfl, rfl, fun kind => by simp⟩
  | again t before leaves fails ih =>
    rename_i done a'
    obtain ⟨fits', joined, verb, left⟩ := ih
    have active' : a'.activeVerb? c = some v := by
      rw [← active]
      exact Activation.activeVerb?_congr verb
    have next : (after (t.outcome c a')).activation.Fits c :=
      perform_fits (show (Rig.mk a' t.surface).activation.Fits c from fits') t.op
    -- The new attempt cannot have completed the teardown, since it failed before its last stage.
    rcases t.torn_cases fits' leaves active' with all | ⟨begun, reached⟩
    · refine absurd ?_ fails.2
      obtain ⟨stops, whole, -⟩ := teardown_eq_concat v a'
      rw [all, whole]
      exact List.mem_concat_self
    · obtain ⟨joined', verb', left'⟩ := begun.rest fits'.once
      refine ⟨next, ?_, ?_, fun kind => ?_⟩
      · rw [reached, List.append_assoc, joined', joined]
      · rw [reached, verb', verb]
      · rw [reached, left', left, List.filter_filter]
        refine List.filter_congr fun i _ => ?_
        simp only [List.mem_append, not_or, Bool.decide_and, Bool.and_comm]

/-- No sequence is in a teardown twice. -/
lemma teardown_nodup (once : ∀ kind, (a.active kind).Nodup) (v : Verb) : (teardown v a).Nodup := by
  have ranked (kind : Kind) :
      ((Ranking.rankBy (priorityAt v kind) (a.active kind)).map (Stage.stop kind)).Nodup := by
    refine List.Nodup.map (fun i j same => ?_) ((Ranking.rankBy_perm _).nodup_iff.mpr (once kind))
    cases same
    rfl
  refine (ranked .modifier).append ((ranked .device).append (List.nodup_singleton _) ?_) ?_
  · intro stage device last
    obtain ⟨i, -, rfl⟩ := List.mem_map.mp device
    cases List.mem_singleton.mp last
  · intro stage modifier later
    obtain ⟨i, -, rfl⟩ := List.mem_map.mp modifier
    rcases List.mem_append.mp later with device | last
    · obtain ⟨j, -, h⟩ := List.mem_map.mp device
      cases h
    · cases List.mem_singleton.mp last

/-- Let some attempts in a row fail before they have left the active verb. Then the verb is still
active, and the entities are those that were not stopped, in order. If another attempt leaves the
verb, then together they have completed each sequence of the teardown once: those of the modifiers
and then those of the devices, each by descending priority and in order of activation for equal
ones, and then that of the verb, as an attempt does that leaves it at once. -/
theorem Retries.teardown_once (reached : a.Reachable c) (active : a.activeVerb? c = some v)
    {done : List Stage} (retries : Retries c a done a') :
    let ranked := fun kind => Ranking.rankBy (priorityAt v kind) (a.active kind)
    let whole := (ranked .modifier).map (.stop .modifier) ++
      ((ranked .device).map (.stop .device) ++ [.leaveVerb])
    (∀ kind, Ranking.Ranks (priorityAt v kind) (a.active kind) (ranked kind)) ∧ whole.Nodup ∧
    a'.verb = a.verb ∧
    (∀ kind, a'.active kind = (a.active kind).filter fun i => .stop kind i ∉ done) ∧
    ∀ t : Attempt, t.Leaves c →
      (∃ stages, (∀ (τ : Type) (b : Backend τ) (surface : τ),
          perform b c t.op ⟨a', surface⟩ = runStages b c stages ⟨a', surface⟩) ∧
        t.torn c a' = (completed t.backend c stages ⟨a', t.surface⟩).filter Stage.isTeardown) ∧
      (.leaveVerb ∈ t.torn c a' → done ++ t.torn c a' = whole) := by
  intro ranked whole
  obtain ⟨fits', joined, verb, left⟩ := retries.rest reached.fits active
  have active' : a'.activeVerb? c = some v := by
    rw [← active]
    exact Activation.activeVerb?_congr verb
  refine ⟨fun kind => Ranking.rankBy_ranks _ _, teardown_nodup reached.fits.once v, verb, left,
    fun t leaves => ⟨?_, fun complete => ?_⟩⟩
  · obtain ⟨others, planned, -⟩ := Attempt.agenda_eq leaves active'
    refine ⟨teardown v a' ++ others, fun τ b surface => ?_, ?_⟩
    · have fits : (Rig.mk a' surface).activation.Fits c := fits'
      have follows := perform_eq_agenda b fits t.op
      rwa [planned] at follows
    · simp only [Attempt.torn, log, planned]
  · rcases t.torn_cases fits' leaves active' with all | ⟨begun, -⟩
    · rw [all, joined]
      rfl
    · exact absurd complete begun.staying

/-- An activation of the sample card with two devices and a modifier. -/
def playing : Activation := ⟨some 0, [2, 0], [0], true⟩

/-- An attempt on a surface on which the writes to some controls fail. -/
def attempt (op : Operation) (failing : List String) : Attempt :=
  ⟨Recorder.backend, { Recorder.fresh with failingControls := failing }, op⟩

/-- The activation is reached by commands. -/
lemma playing_reachable : playing.Reachable Sample.card := by
  have verb : Activation.Reachable Sample.card ⟨some 0, [], [], true⟩ :=
    .led .fresh Recorder.backend (.command (.setVerb "HiFi")) .fresh (by decide)
  have microphone : Activation.Reachable Sample.card ⟨some 0, [2], [], true⟩ :=
    verb.led Recorder.backend (.command (.enable .device "Mic")) .fresh (by decide)
  have speaker : Activation.Reachable Sample.card ⟨some 0, [2, 0], [], true⟩ :=
    microphone.led Recorder.backend (.command (.enable .device "Speaker")) .fresh (by decide)
  exact speaker.led Recorder.backend (.command (.enable .modifier "Play Tone")) .fresh (by decide)

/-- Two attempts fail, the first at the speaker and the second at the microphone. -/
lemma playing_retries : Retries Sample.card playing [.stop .modifier 0, .stop .device 0]
    ⟨some 0, [2], [], true⟩ := by
  have again {done done' : List Stage} {a' a'' : Activation} (t : Attempt)
      (before : Retries Sample.card playing done a') (leaves : t.Leaves Sample.card)
      (fails : t.FailsInTeardown Sample.card a') (tears : done ++ t.torn Sample.card a' = done')
      (leads : (after (t.outcome Sample.card a')).activation = a'') :
      Retries Sample.card playing done' a'' :=
    tears ▸ leads ▸ .again t before leaves fails
  have first : Retries Sample.card playing [.stop .modifier 0] ⟨some 0, [2, 0], [], true⟩ :=
    again (attempt .reset ["Speaker off"]) .none trivial ⟨⟨_, by rfl⟩, by decide⟩ (by decide)
      (by decide)
  exact again (attempt (.command (.setVerb "Voice Call")) ["Mic off"]) first (.inr (by decide))
    ⟨⟨_, by rfl⟩, by decide⟩ (by decide) (by decide)

/-- With the third attempt each sequence of the teardown was completed once. -/
theorem teardown_once_in_three_attempts :
    let last := attempt (.command (.setVerb "Voice Call")) []
    playing.Reachable Sample.card ∧ playing.activeVerb? Sample.card = some Sample.hifi ∧
    Retries Sample.card playing [.stop .modifier 0, .stop .device 0] ⟨some 0, [2], [], true⟩ ∧
    last.Leaves Sample.card ∧ .leaveVerb ∈ last.torn Sample.card ⟨some 0, [2], [], true⟩ ∧
    [.stop .modifier 0, .stop .device 0] ++ last.torn Sample.card ⟨some 0, [2], [], true⟩ =
      [.stop .modifier 0, .stop .device 0, .stop .device 2, .leaveVerb] := by
  intro last
  have leaves : last.Leaves Sample.card := .inr (by decide)
  have completes : .leaveVerb ∈ last.torn Sample.card ⟨some 0, [2], [], true⟩ := by decide
  have once := (playing_retries.teardown_once playing_reachable rfl).2.2.2.2 last leaves
  exact ⟨playing_reachable, rfl, playing_retries, leaves, completes, once.2 completes⟩

end UseCase.Rig
