import Mathlib.Tactic.Common
import UseCase.Proofs.VerbChange
import UseCase.Recorder
import UseCase.Sample

/-!
# When the defaults were run

The defaults sequence of a card is run before the first verb is entered and not again before a reset
succeeds or another card is loaded. The activation keeps a mark for this. A `History` keeps what the
mark stands for: all operations, with the stages that they completed. The mark agrees with the
history after every operation, also after one that failed halfway (`History.remembers_defaults`).
-/

namespace UseCase.Rig

variable {σ : Type} {b : Backend σ} {c : Card} {a : Activation} {rig : Rig σ}

/-! ## Histories -/

/-- What happened to a machine. -/
inductive Happening where
  /-- An operation, with its answer and the stages that it completed. -/
  | performed (op : Operation) (answer : Except Fault Unit) (stages : List Stage)
  /-- A card was loaded, and the activation was given up. -/
  | loaded

namespace Happening

/-- The defaults sequence was run to its end. -/
def RunsDefaults : Happening → Prop
  | performed _ _ stages => .defaults ∈ stages
  | loaded => False

/-- The machine begins anew: it was reset, or another card was loaded. -/
def Renews : Happening → Prop
  | performed op answer _ => op = .reset ∧ answer = .ok ()
  | loaded => True

end Happening

/-- The defaults sequence was run to its end since the machine began anew for the last time. -/
def DefaultsRun (past : List Happening) : Prop :=
  ∃ before h later, past = before ++ h :: later ∧ h.RunsDefaults ∧ ∀ h' ∈ later, ¬ h'.Renews

/-- A run of a machine since it was made, whatever control surfaces it met and however its
operations ended: what happened, the card and the activation at the end. -/
inductive History : List Happening → Card → Activation → Prop
  | made (c : Card) : History [] c .fresh
  | performed {past : List Happening} {c : Card} {a : Activation} {σ : Type} (b : Backend σ)
    (op : Operation) (surface : σ) : History past c a →
    History (past ++ [.performed op (answer (perform b c op ⟨a, surface⟩))
        (log b c op ⟨a, surface⟩)]) c
      (after (perform b c op ⟨a, surface⟩)).activation
  | loaded {past : List Happening} {c : Card} {a : Activation} (c' : Card) : History past c a →
    History (past ++ [.loaded]) c' .fresh

/-- What has a history is reached by its operations. -/
lemma History.reached {past : List Happening} (history : History past c a) : a.Reachable c := by
  induction history with
  | made c => exact .fresh
  | performed b op surface _ ih => exact ih.step b op surface
  | loaded c' _ _ => exact .fresh

/-- Nothing that has happened includes no run of the defaults. -/
lemma defaultsRun_nil : ¬ DefaultsRun [] := by
  rintro ⟨before, h, later, split, -⟩
  exact List.append_ne_nil_of_right_ne_nil before (List.cons_ne_nil h later) split.symm

/-- What happens last decides, if it runs the defaults sequence or lets the machine begin anew. -/
lemma defaultsRun_concat {past : List Happening} {h : Happening}
    (apart : h.RunsDefaults → ¬ h.Renews) :
    DefaultsRun (past ++ [h]) ↔ ¬ h.Renews ∧ (h.RunsDefaults ∨ DefaultsRun past) := by
  constructor
  · rintro ⟨before, run, later, split, runs, none⟩
    -- The last run of the defaults is what happened last, or something happened after it.
    rcases List.eq_nil_or_concat later with rfl | ⟨others, last, rfl⟩
    · obtain ⟨-, same⟩ := List.append_inj' split rfl
      cases same
      exact ⟨apart runs, .inl runs⟩
    · rw [List.concat_eq_append, ← List.cons_append, ← List.append_assoc] at split
      obtain ⟨earlier, same⟩ := List.append_inj' split rfl
      cases same
      refine ⟨none h (by simp), .inr ⟨before, run, others, earlier, runs, fun h' member => ?_⟩⟩
      exact none h' (by simp [member])
  · rintro ⟨keeps, runs | ⟨before, run, later, rfl, runs, none⟩⟩
    · exact ⟨past, h, [], rfl, runs, by simp⟩
    · refine ⟨before, run, later ++ [h], by simp, runs, fun h' member => ?_⟩
      rcases List.mem_append.mp member with earlier | last
      · exact none h' earlier
      · rw [List.mem_singleton.mp last]
        exact keeps

/-! ## The mark -/

/-- Two stages touch the mark. -/
lemma Stage.defaultsApplied_effect (stage : Stage) (a : Activation) :
    (stage.effect a).defaultsApplied =
      if stage = .defaults then true else if stage = .forget then false
      else a.defaultsApplied := by
  cases stage with
  | start | stop => exact Activation.defaultsApplied_setActive
  | transition kind old new =>
    change (if a.isActive kind new then _ else _ : Activation).defaultsApplied = a.defaultsApplied
    split_ifs <;> exact Activation.defaultsApplied_setActive
  | _ => rfl

/-- Stages among which nothing is forgotten set the mark if they run the defaults sequence. -/
lemma defaultsApplied_effects {stages : List Stage} (kept : .forget ∉ stages) (a : Activation) :
    (effects stages a).defaultsApplied ↔ .defaults ∈ stages ∨ a.defaultsApplied := by
  induction stages generalizing a with
  | nil => simp [effects]
  | cons stage rest ih =>
    rw [List.mem_cons, not_or] at kept
    change (effects rest (stage.effect a)).defaultsApplied ↔ _
    rw [ih kept.2, stage.defaultsApplied_effect, if_neg (Ne.symm kept.1), List.mem_cons]
    by_cases here : stage = .defaults
    · simp [here]
    · simp [here, Ne.symm here]

/-- A departure does not touch it. -/
lemma quiet_departure : ∀ stage ∈ departure c a, stage ≠ .forget ∧ stage ≠ .defaults := by
  intro stage member
  rcases cases_of_mem_departure member with ⟨kind, index, rfl⟩ | rfl <;> simp

/-- Only a reset forgets. -/
lemma forget_not_mem {op : Operation} {stages : List Stage} (other : op ≠ .reset)
    (planned : agenda c a op = .ok stages) : .forget ∉ stages := by
  have departing : Stage.forget ∉ departure c a := fun member => (quiet_departure _ member).1 rfl
  cases agenda_course planned with
  | reset => exact absurd rfl other
  | quit => exact departing
  | enter =>
    intro member
    rcases List.mem_append.mp member with leaving | entering
    · exact departing leaving
    · rcases cases_of_mem_arrival entering with h | h <;> cases h
  | switch =>
    intro member
    rcases cases_of_mem_handover member with h | h | h <;> cases h
  | _ => simp

/-- A reset completes all of its stages, or some of a departure. -/
lemma log_reset (fits : rig.activation.Fits c) :
    (answer (perform b c .reset rig) = .ok () ∧
        log b c .reset rig = departure c rig.activation ++ [.forget]) ∨
      (∃ f, answer (perform b c .reset rig) = .error f) ∧
        log b c .reset rig <+: departure c rig.activation := by
  have follows : perform b c .reset rig =
      runStages b c (departure c rig.activation ++ [.forget]) rig := by
    rw [perform_eq_agenda b fits, agenda, follow]
  rw [follows, log, agenda]
  cases ran : runStages b c (departure c rig.activation ++ [.forget]) rig with
  | ok u rig' => exact .inl ⟨rfl, completed_of_ok b c ran⟩
  | error f rig' =>
    have begun := completed_begins b c (departure c rig.activation ++ [.forget]) rig
    refine .inr ⟨⟨f, rfl⟩, ?_⟩
    exact (List.prefix_concat_iff.mp begun).resolve_left (completed_of_error b c ran)

/-- A reset that succeeds leaves nothing, and one that fails does not forget. -/
lemma activation_reset (fits : rig.activation.Fits c) :
    (answer (perform b c .reset rig) = .ok () →
        (after (perform b c .reset rig)).activation = .fresh) ∧
      ∀ f, answer (perform b c .reset rig) = .error f →
        (after (perform b c .reset rig)).activation.defaultsApplied =
          rig.activation.defaultsApplied := by
  rw [perform_activation fits]
  rcases log_reset (b := b) fits with ⟨done, all⟩ | ⟨⟨f, failed⟩, begun⟩
  · rw [all, effects_append, effects_departure fits, done]
    exact ⟨fun _ => rfl, nofun⟩
  · rw [failed]
    exact ⟨nofun, fun _ _ =>
      defaultsApplied_of_departure _ fun stage member => begun.subset member⟩

/-- What happened when an operation was carried out. -/
def happening (b : Backend σ) (c : Card) (op : Operation) (rig : Rig σ) : Happening :=
  .performed op (answer (perform b c op rig)) (log b c op rig)

/-- An operation sets the mark if it runs the defaults sequence, and takes it away if the machine
begins anew. -/
lemma defaultsApplied_performed (fits : rig.activation.Fits c) (op : Operation) :
    ((happening b c op rig).RunsDefaults → ¬ (happening b c op rig).Renews) ∧
      ((after (perform b c op rig)).activation.defaultsApplied ↔
        ¬ (happening b c op rig).Renews ∧
          ((happening b c op rig).RunsDefaults ∨ rig.activation.defaultsApplied)) := by
  by_cases reset : op = .reset
  · subst reset
    have absent : Stage.defaults ∉ log b c .reset rig := by
      intro member
      rcases log_reset (b := b) fits with ⟨-, all⟩ | ⟨-, begun⟩
      · rw [all, List.mem_append] at member
        rcases member with leaving | last
        · exact (quiet_departure _ leaving).2 rfl
        · simp at last
      · exact (quiet_departure _ (begun.subset member)).2 rfl
    obtain ⟨good, bad⟩ := activation_reset (b := b) fits
    rw [happening, Happening.RunsDefaults, Happening.Renews]
    cases ended : answer (perform b c .reset rig) with
    | ok u => simp [good ended, absent, Activation.fresh]
    | error f => simp [bad f ended, absent]
  · have kept : Stage.forget ∉ log b c op rig := by
      rw [log]
      cases planned : agenda c rig.activation op with
      | error f => exact List.not_mem_nil
      | ok stages =>
        exact fun member =>
          forget_not_mem reset planned ((completed_begins b c stages rig).subset member)
    rw [perform_activation fits, defaultsApplied_effects kept, happening, Happening.RunsDefaults,
      Happening.Renews]
    simp [reset]

/-! ## Verbs and the mark -/

/-- A verb is only active once the defaults were run. -/
def Settled (a : Activation) : Prop :=
  a.verb ≠ none → a.defaultsApplied

/-- Active entities have no part in whether defaults are settled. -/
lemma Settled.setActive (settled : Settled a) (kind : Kind) (indices : List Nat) :
    Settled (a.setActive kind indices) := by
  rw [Settled, Activation.verb_setActive, Activation.defaultsApplied_setActive]
  exact settled

/-- Stages that neither enter a verb nor forget anything keep it so. -/
lemma Settled.effects {stages : List Stage} (settled : Settled a)
    (quiet : ∀ stage ∈ stages, stage ≠ .forget ∧ ∀ index, stage ≠ .enterVerb index) :
    Settled (effects stages a) := by
  induction stages generalizing a with
  | nil => exact settled
  | cons stage rest ih =>
    obtain ⟨⟨kept, inside⟩, others⟩ := List.forall_mem_cons.mp quiet
    refine ih ?_ others
    cases stage with
    | forget => exact absurd rfl kept
    | enterVerb index => exact absurd rfl (inside index)
    | fixedBoot | boot => exact settled
    | defaults => exact fun _ => rfl
    | leaveVerb => exact fun active => absurd rfl active
    | start kind index | stop kind index => exact settled.setActive kind _
    | transition kind old new =>
      change Settled (if _ then _ else _)
      split_ifs <;> exact settled.setActive kind _

/-- The first of some stages and more are the first of the former, or all of them and the first of
the others. -/
lemma begun_append {first second done : List Stage} (begun : done <+: first ++ second) :
    done <+: first ∨ ∃ rest, rest <+: second ∧ done = first ++ rest := by
  rcases List.prefix_or_prefix_of_prefix begun (List.prefix_append first second) with
    before | ⟨rest, rfl⟩
  · exact .inl before
  · exact .inr ⟨rest, (List.prefix_append_right_inj first).mp begun, rfl⟩

/-- No operation unsettles the defaults. -/
lemma Settled.performed (settled : Settled rig.activation) (fits : rig.activation.Fits c)
    (op : Operation) : Settled (after (perform b c op rig)).activation := by
  rw [perform_activation fits, log]
  cases planned : agenda c rig.activation op with
  | error f => exact settled
  | ok stages =>
    change Settled (Rig.effects (completed b c stages rig) rig.activation)
    have begun := completed_begins b c stages rig
    generalize completed b c stages rig = done at begun
    have leaving {done : List Stage} (begun : done <+: departure c rig.activation) :
        Settled (Rig.effects done rig.activation) := by
      refine settled.effects fun stage member => ?_
      rcases cases_of_mem_departure (begun.subset member) with ⟨kind, index, rfl⟩ | rfl <;> simp
    cases agenda_course planned with
    | quit => exact leaving begun
    | reset =>
      rcases List.prefix_concat_iff.mp begun with rfl | before
      · rw [effects_append, effects_departure fits]
        exact fun active => absurd rfl active
      · exact leaving before
    | @enter name index other found =>
      rcases begun_append begun with before | ⟨rest, begun', rfl⟩
      · exact leaving before
      · -- After the departure no verb is active before the arrival ends, where the mark is set.
        rw [effects_append, effects_departure fits]
        by_cases all : rest = arrival rig.activation index
        · rw [all, effects_arrival]
          exact fun _ => rfl
        · exact fun active => absurd (inactive_of_begun_arrival begun' all).1 active
    | switch =>
      refine settled.effects fun stage member => ?_
      rcases cases_of_mem_handover (begun.subset member) with rfl | rfl | rfl <;> simp
    | enabled | disabled | stay =>
      rw [List.prefix_nil.mp begun]
      exact settled
    | _ =>
      refine settled.effects fun stage member => ?_
      rw [List.mem_singleton.mp (begun.subset member)]
      simp

/-! ## Verbs without the defaults -/

/-- A stage other than that of the defaults has nothing to do with the defaults sequence. -/
lemma Stage.run_of_other {stage : Stage} (other : stage ≠ .defaults) (s : Sequence) :
    stage.run b { c with defaultsSequence := s } = stage.run b c := by
  cases stage with
  | defaults => exact absurd rfl other
  | _ => rfl

/-- Stages without the defaults run in the same way whatever sequence these have. -/
lemma runStages_of_other {stages : List Stage} (other : .defaults ∉ stages) (s : Sequence) :
    runStages b { c with defaultsSequence := s } stages = runStages b c stages := by
  induction stages with
  | nil => rfl
  | cons stage rest ih =>
    rw [List.mem_cons, not_or] at other
    rw [runStages, runStages, Stage.run_of_other (Ne.symm other.1), ih other.2]

/-- Setting a verb once more plans no defaults. -/
lemma defaults_not_mem {name : String} {stages : List Stage} (applied : a.defaultsApplied)
    (planned : agenda c a (.command (.setVerb name)) = .ok stages) : .defaults ∉ stages := by
  have departing : Stage.defaults ∉ departure c a := fun member =>
    (quiet_departure _ member).2 rfl
  cases agenda_course planned with
  | quit => exact departing
  | enter =>
    rw [arrival, if_pos applied, List.mem_append, not_or]
    exact ⟨departing, by simp⟩

/-- With the mark, it does not matter to the setting of a verb what the defaults sequence is. -/
lemma setVerb_of_applied (fits : rig.activation.Fits c) (applied : rig.activation.defaultsApplied)
    (b : Backend σ) (name : String) (s : Sequence) :
    perform b { c with defaultsSequence := s } (.command (.setVerb name)) rig =
      perform b c (.command (.setVerb name)) rig := by
  have fits' : rig.activation.Fits { c with defaultsSequence := s } :=
    ⟨fits.idle, fits.known, fits.once⟩
  have same : agenda { c with defaultsSequence := s } rig.activation (.command (.setVerb name)) =
      agenda c rig.activation (.command (.setVerb name)) := rfl
  rw [perform_eq_agenda b fits', same, perform_eq_agenda b fits]
  cases planned : agenda c rig.activation (.command (.setVerb name)) with
  | error f => rfl
  | ok stages => exact congrFun (runStages_of_other (defaults_not_mem applied planned) s) rig

/-! ## The mark and the history -/

namespace History

variable {past : List Happening}

/-- The mark tells whether the defaults were run since the machine began anew. -/
lemma defaultsApplied_iff (history : History past c a) : a.defaultsApplied ↔ DefaultsRun past := by
  induction history with
  | made c => exact iff_of_false (by simp [Activation.fresh]) defaultsRun_nil
  | @performed past c a σ b op surface before ih =>
    have fits : (Rig.mk a surface).activation.Fits c := before.reached.fits
    obtain ⟨apart, marked⟩ := defaultsApplied_performed (b := b) fits op
    exact marked.trans (Iff.symm ((defaultsRun_concat apart).trans (by rw [ih])))
  | loaded c' before ih =>
    have apart : Happening.loaded.RunsDefaults → ¬ Happening.loaded.Renews := False.elim
    exact iff_of_false (by simp [Activation.fresh]) fun run =>
      ((defaultsRun_concat apart).mp run).1 trivial

/-- Every state with a history has its defaults settled. -/
lemma settled (history : History past c a) : Settled a := by
  induction history with
  | made c => exact fun active => absurd rfl active
  | @performed past c a σ b op surface before ih =>
    have fits : (Rig.mk a surface).activation.Fits c := before.reached.fits
    exact Settled.performed ih fits op
  | loaded c' before ih => exact fun active => absurd rfl active

/-- Whatever happened since a machine was made, the mark of the defaults is set exactly if their
sequence was run to its end, by itself or before a verb was entered, and no reset has succeeded and
no card was loaded since. It is set while a verb is active. While it is set, setting a verb does not
depend on the defaults sequence at all, so it sends none of its steps. A reset that succeeds makes
the activation fresh, and one that fails keeps the mark.

What counts as run are the completed stages of an operation, which runs those of its agenda until a
sequence fails. -/
theorem remembers_defaults (history : History past c a) :
    (a.defaultsApplied ↔ DefaultsRun past) ∧ (a.verb ≠ none → a.defaultsApplied) ∧
    ∀ (σ : Type) (b : Backend σ) (surface : σ),
      (∀ op, perform b c op ⟨a, surface⟩ = follow b c (agenda c a op) ⟨a, surface⟩) ∧
      (a.defaultsApplied → ∀ name s,
        perform b { c with defaultsSequence := s } (.command (.setVerb name)) ⟨a, surface⟩ =
          perform b c (.command (.setVerb name)) ⟨a, surface⟩) ∧
      (answer (perform b c .reset ⟨a, surface⟩) = .ok () →
        (after (perform b c .reset ⟨a, surface⟩)).activation = .fresh) ∧
      ∀ f, answer (perform b c .reset ⟨a, surface⟩) = .error f →
        (after (perform b c .reset ⟨a, surface⟩)).activation.defaultsApplied =
          a.defaultsApplied := by
  refine ⟨history.defaultsApplied_iff, history.settled, fun σ b surface => ?_⟩
  have fits : (Rig.mk a surface).activation.Fits c := history.reached.fits
  obtain ⟨renewed, kept⟩ := activation_reset (b := b) fits
  exact ⟨fun op => perform_eq_agenda b fits op,
    fun applied name s => setVerb_of_applied fits applied b name s, renewed, kept⟩

end History

/-- A machine whose first attempt to enter a verb fails after the defaults sequence, whose second
one succeeds, and whose reset fails. -/
def stumbling : List Happening :=
  [.performed (.command (.setVerb "HiFi"))
      (.error (.sequence "HiFi enable" 0 (.rejected "HiFi on" "injected failure"))) [.defaults],
    .performed (.command (.setVerb "HiFi")) (.ok ()) [.enterVerb 0],
    .performed .reset
      (.error (.sequence "HiFi disable" 0 (.rejected "HiFi off" "injected failure"))) []]

/-- What happens in `stumbling` leads to a machine with an active verb. -/
lemma stumbling_history : History stumbling Sample.card ⟨some 0, [], [], true⟩ := by
  have refused : History (stumbling.take 1) Sample.card ⟨none, [], [], true⟩ :=
    (History.made Sample.card).performed Recorder.backend (.command (.setVerb "HiFi"))
      (Recorder.fresh.failOn "HiFi on")
  have entered : History (stumbling.take 2) Sample.card ⟨some 0, [], [], true⟩ :=
    refused.performed Recorder.backend (.command (.setVerb "HiFi")) .fresh
  exact entered.performed Recorder.backend .reset (Recorder.fresh.failOn "HiFi off")

/-- The defaults count as run although the verb was not entered the first time. The reset that
failed has not changed this, and the one that succeeds next makes the machine fresh. -/
theorem stumbling_defaults :
    History stumbling Sample.card ⟨some 0, [], [], true⟩ ∧ DefaultsRun stumbling ∧
    (∀ s, perform Recorder.backend { Sample.card with defaultsSequence := s }
        (.command (.setVerb "Voice Call")) ⟨⟨some 0, [], [], true⟩, .fresh⟩ =
      perform Recorder.backend Sample.card (.command (.setVerb "Voice Call"))
        ⟨⟨some 0, [], [], true⟩, .fresh⟩) ∧
    answer (perform Recorder.backend Sample.card .reset ⟨⟨some 0, [], [], true⟩, .fresh⟩) =
      .ok () ∧
    (after (perform Recorder.backend Sample.card .reset
      ⟨⟨some 0, [], [], true⟩, .fresh⟩)).activation = .fresh := by
  obtain ⟨marked, -, every⟩ := stumbling_history.remembers_defaults
  obtain ⟨-, free, renewed, -⟩ := every Recorder Recorder.backend .fresh
  have succeeds : answer (perform Recorder.backend Sample.card .reset
      ⟨⟨some 0, [], [], true⟩, .fresh⟩) = .ok () := rfl
  exact ⟨stumbling_history, marked.mp rfl, free rfl "Voice Call", succeeds, renewed succeeds⟩

end UseCase.Rig
