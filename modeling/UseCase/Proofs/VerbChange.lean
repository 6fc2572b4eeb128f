import Mathlib.Tactic.Common
import UseCase.Proofs.Dispatch
import UseCase.Proofs.Teardown

/-!
# Changing the verb

To enter a verb the active one is left first, if there is one, then the defaults sequence is run
unless that was done before, and then the new verb is enabled. `leavingSteps` and `enteringSteps`
say in terms of verbs and entities which steps these parts send. The main statement
`setVerb_steps` says that an entry that succeeds sends exactly these steps, in this order, and what
it leaves of the activation; the verb that is left may be the one that is entered.

Setting no verb does the first part alone. So an entry has come past its teardown exactly if setting
no verb would have succeeded instead, and if it fails then, no verb is active.
-/

namespace UseCase.Rig

variable {σ : Type} {c : Card} {a : Activation} {v w : Verb} {index : Nat} {name : String}

/-- The steps that leave the active verb: those that disable its active modifiers and then its
active devices, each by descending priority, and those that disable the verb. -/
def leavingSteps (c : Card) (a : Activation) : List Step :=
  match a.activeVerb? c with
  | none => []
  | some v =>
    let disabling := fun kind =>
      (Ranking.rank (a.entities v kind)).flatMap fun e => c.expand (some v) e.disable
    disabling .modifier ++ (disabling .device ++ c.expand (some v) v.disable)

/-- The steps that enter a verb, after those of the defaults sequence unless that was run before. -/
def enteringSteps (c : Card) (a : Activation) (w : Verb) : List Step :=
  (if a.defaultsApplied then [] else c.expand none c.defaultsSequence) ++
    c.expand (some w) w.enable

/-! ## Leaving -/

/-- The active positions by descending priority are those of the active entities by descending
priority. -/
lemma entities_ranked (fits : a.Fits c) (active : a.activeVerb? c = some v) (kind : Kind) :
    (Ranking.rankBy (priorityAt v kind) (a.active kind)).filterMap (v.entity? kind) =
      Ranking.rank (a.entities v kind) := by
  let priority : Option Entity → Nat := fun e => e.elim 0 Entity.priority
  have positions : priorityAt v kind = fun i => priority (v.entity? kind i) := by
    funext i
    rw [priorityAt]
    cases v.entity? kind i <;> rfl
  have ranked : (Ranking.rankBy (priorityAt v kind) (a.active kind)).map (v.entity? kind) =
      (Ranking.rank (a.entities v kind)).map some := by
    calc (Ranking.rankBy (priorityAt v kind) (a.active kind)).map (v.entity? kind)
      _ = Ranking.rankBy priority ((a.active kind).map (v.entity? kind)) := by
        rw [positions, Ranking.rankBy_map]
      _ = Ranking.rankBy priority ((a.entities v kind).map some) := by
        rw [Activation.map_some_entities fun i => fits.lt_length active]
      _ = (Ranking.rank (a.entities v kind)).map some :=
        (Ranking.rankBy_map some priority (a.entities v kind)).symm
  have whole := congrArg (List.filterMap id) ranked
  rwa [List.filterMap_map, List.filterMap_map, Function.id_comp, Function.id_comp,
    List.filterMap_some] at whole

/-- The steps that stop entities of the active verb one after the other. -/
lemma script_stops (active : a.activeVerb? c = some v) (kind : Kind) (indices : List Nat) :
    script c a (indices.map (.stop kind)) =
      (indices.filterMap (v.entity? kind)).flatMap fun e => c.expand (some v) e.disable := by
  induction indices generalizing a with
  | nil => rfl
  | cons index rest ih =>
    have active' : (a.remove kind index).activeVerb? c = some v :=
      Activation.activeVerb?_setActive.trans active
    rw [List.map_cons, script, Stage.steps, active, Option.elim_some]
    change _ ++ script c (a.remove kind index) _ = _
    rw [ih active']
    cases found : v.entity? kind index with
    | none => rw [List.filterMap_cons_none found]; rfl
    | some e => rw [List.filterMap_cons_some found]; rfl

/-- The stages of a departure send the steps that leave the verb. -/
lemma script_departure (fits : a.Fits c) : script c a (departure c a) = leavingSteps c a := by
  rw [departure, leavingSteps]
  cases active : a.activeVerb? c with
  | none => rfl
  | some v =>
    -- The devices are stopped when no modifier is left, which changes nothing about them.
    have verb (kind : Kind) (b : Activation) (h : b.activeVerb? c = some v) :
        (b.setActive kind []).activeVerb? c = some v :=
      Activation.activeVerb?_setActive.trans h
    have devices : a.active .device = (a.setActive .modifier []).active .device := rfl
    have last : ((a.setActive .modifier []).setActive .device []).activeVerb? c = some v :=
      verb _ _ (verb _ _ active)
    have stops := entities_ranked fits active
    simp only
    rw [teardown, script_append, script_stops active, effects_stops_ranked, stops .modifier,
      script_append, script_stops (verb _ _ active), stops .device, devices, effects_stops_ranked,
      script, script, Stage.steps, last, Option.elim_some, List.append_nil]

/-! ## Entering -/

/-- The stages of an arrival send the steps that enter the verb. -/
lemma script_arrival (found : c.verb? index = some w) (a' : Activation) :
    script c a' (arrival a index) = enteringSteps c a w := by
  rw [arrival, enteringSteps]
  split_ifs
  · rw [script, script, Stage.steps, found]
    exact List.append_nil _
  · rw [script, script, script, Stage.steps, Stage.steps, found, List.append_nil]
    rfl

/-- After an arrival the verb is active, nothing else is, and the defaults were run. -/
lemma effects_arrival (a : Activation) (index : Nat) :
    effects (arrival a index) a.leave = ⟨some index, [], [], true⟩ := by
  rw [arrival]
  split_ifs with applied
  · change Activation.mk _ _ _ a.defaultsApplied = _
    rw [applied]
    rfl
  · rfl

/-- An arrival that does not come to its end leaves no verb active, and nothing else. -/
lemma inactive_of_begun_arrival {done : List Stage} (begun : done <+: arrival a index)
    (unfinished : done ≠ arrival a index) :
    (effects done a.leave).verb = none ∧ ∀ kind, (effects done a.leave).active kind = [] := by
  have first : done = [] ∨ done = [Stage.defaults] := by
    rw [arrival] at begun unfinished
    split_ifs at begun unfinished
    · exact .inl ((begun_single begun).resolve_right unfinished)
    · rcases List.prefix_cons_iff.mp begun with none | ⟨rest, rfl, later⟩
      · exact .inl none
      · refine .inr (congrArg (Stage.defaults :: ·) ((begun_single later).resolve_right ?_))
        rintro rfl
        exact unfinished rfl
  rcases first with rfl | rfl
  · exact ⟨rfl, fun kind => by cases kind <;> rfl⟩
  · exact ⟨rfl, fun kind => by cases kind <;> rfl⟩

/-! ## The whole change -/

variable (b : Backend σ) {surface : σ}

/-- A departure does not boot. -/
lemma boot_not_mem_departure : .boot ∉ departure c a := by
  intro member
  rcases cases_of_mem_departure member with ⟨kind, index, h⟩ | h
  · cases h
  · cases h

/-- A change of the verb does not boot. -/
lemma boot_not_mem_change : .boot ∉ departure c a ++ arrival a index := by
  intro member
  rcases List.mem_append.mp member with departing | arriving
  · exact boot_not_mem_departure departing
  · rcases cases_of_mem_arrival arriving with h | h
    · cases h
    · cases h

/-- Setting a verb is setting none and then entering it. -/
lemma setVerb_eq_quit_enter (fits : a.Fits c) (other : name ≠ inactiveName)
    (defined : c.findVerb? name = some index) :
    setVerb b c name ⟨a, surface⟩ = (do
      setVerb b c inactiveName
      enterVerb b c name index) ⟨a, surface⟩ := by
  let rig : Rig σ := ⟨a, surface⟩
  have fits' : rig.activation.Fits c := fits
  have quits : setVerb b c inactiveName rig = runStages b c (departure c a) rig :=
    (setVerb_eq b fits' inactiveName).trans (by rw [agenda_quit, follow])
  rw [Outcome.bind_apply, quits, setVerb, target, if_neg other, defined, pure_bind]
  exact departure_eq b fits' (enterVerb b c name index)

/-- If setting a verb fails after the active one was left, no verb is active, and nothing else. -/
lemma inactive_of_failed_entry (fits : a.Fits c) (other : name ≠ inactiveName)
    (defined : c.findVerb? name = some index) {f : Fault}
    (failed : (report b c (.command (.setVerb name)) a surface).answer = .error f)
    (left : (report b c (.command (.setVerb inactiveName)) a surface).answer = .ok ()) :
    let told := report b c (.command (.setVerb name)) a surface
    told.activation.verb = none ∧ ∀ kind, told.activation.active kind = [] := by
  intro told
  let rig : Rig σ := ⟨a, surface⟩
  have fits' : rig.activation.Fits c := fits
  have quits : perform b c (.command (.setVerb inactiveName)) rig =
      runStages b c (departure c a) rig := by
    rw [perform_eq_agenda b fits', agenda_quit, follow]
  have enters : perform b c (.command (.setVerb name)) rig =
      runStages b c (departure c a ++ arrival a index) rig := by
    rw [perform_eq_agenda b fits', agenda_setVerb other defined, follow]
  rw [report, quits] at left
  rw [report, enters] at failed
  have left := eq_ok_of_answer left
  -- All of the departure was completed, so it is the arrival that was not.
  have whole := completed_append b c (departure c a) (arrival a index) rig
  rw [left] at whole
  let done := completed b c (arrival a index) (after (runStages b c (departure c a) rig))
  have ended : told.activation = effects done a.leave := by
    change (after (perform b c (.command (.setVerb name)) rig)).activation = _
    rw [enters, after_runStages, whole, effects_append, effects_departure fits]
  rw [ended]
  refine inactive_of_begun_arrival (completed_begins b c _ _) fun all => ?_
  have complete := whole.trans (congrArg (departure c a ++ ·) all)
  exact completed_of_error b c (eq_error_of_answer failed) complete

/-- Setting no verb does not forget whether the defaults were run, however it ends. -/
lemma defaultsApplied_quit (fits : a.Fits c) :
    (report b c (.command (.setVerb inactiveName)) a surface).activation.defaultsApplied =
      a.defaultsApplied := by
  let rig : Rig σ := ⟨a, surface⟩
  have fits' : rig.activation.Fits c := fits
  have ended : (after (perform b c (.command (.setVerb inactiveName)) rig)).activation =
      effects (completed b c (departure c a) rig) a := by
    rw [perform_activation fits', log, agenda_quit]
  rw [report, ended]
  exact defaultsApplied_of_departure a fun stage member => (completed_begins b c _ _).subset member

/-- Let the named verb be one of the card. If setting it succeeds, the steps that are sent are, with
all their calls, those that disable the active modifiers and the active devices, each by descending
priority and in order of activation for equal ones, those that disable the active verb, those of the
defaults sequence if it was not run before, and those that enable the new verb. Then this verb is
active, nothing else is, and the defaults were run.

To set it is to set none and then to enter it, and if this fails in the second part, no verb is
active, and nothing else. Setting none sends the steps of the first part, or some of them if it
fails, and never changes whether the defaults were run. -/
theorem setVerb_steps (reached : a.Reachable c) (other : name ≠ inactiveName)
    (defined : c.findVerb? name = some index) (surface : σ) :
    let told := report b c (.command (.setVerb name)) a surface
    let quit := report b c (.command (.setVerb inactiveName)) a surface
    ∃ w, c.verb? index = some w ∧ w.name = name ∧
    (∀ v, a.activeVerb? c = some v → ∀ kind,
      (a.entities v kind).map some = (a.active kind).map (v.entity? kind) ∧
      Ranking.Ranks Entity.priority (a.entities v kind) (Ranking.rank (a.entities v kind))) ∧
    (told.answer = .ok () →
      told.exchanges = (leavingSteps c a ++ enteringSteps c a w).map .accepted ∧
      told.activation = ⟨some index, [], [], true⟩) ∧
    perform b c (.command (.setVerb name)) ⟨a, surface⟩ = (do
      perform b c (.command (.setVerb inactiveName))
      enterVerb b c name index) ⟨a, surface⟩ ∧
    (∀ f, told.answer = .error f → quit.answer = .ok () →
      told.activation.verb = none ∧ ∀ kind, told.activation.active kind = []) ∧
    (quit.answer = .ok () →
      quit.exchanges = (leavingSteps c a).map .accepted ∧
      quit.activation = ⟨none, [], [], a.defaultsApplied⟩) ∧
    quit.exchanges.map Exchange.step <+: leavingSteps c a ∧
    quit.activation.defaultsApplied = a.defaultsApplied := by
  intro told quit
  have fits := reached.fits
  obtain ⟨w, found, named⟩ := Card.verb?_of_findVerb? defined
  have entry := report_of_agenda b fits (agenda_setVerb other defined) boot_not_mem_change surface
  have exit := report_of_agenda b fits agenda_quit boot_not_mem_departure surface
  rw [script_append, effects_append, effects_departure fits, script_departure fits,
    script_arrival found, effects_arrival] at entry
  rw [script_departure fits, effects_departure fits] at exit
  refine ⟨w, found, named, fun v active kind => ⟨?_, Ranking.rankBy_ranks _ _⟩, entry.1,
    setVerb_eq_quit_enter b fits other defined, fun f failed left => ?_, exit.1, exit.2,
    defaultsApplied_quit b fits⟩
  · exact Activation.map_some_entities fun i => fits.lt_length active
  · exact inactive_of_failed_entry b fits other defined failed left

/-- A verb is entered again while a modifier and two devices of it are active. -/
theorem setVerb_steps_again :
    let told := report Recorder.backend Sample.card (.command (.setVerb "HiFi")) playing .fresh
    playing.Reachable Sample.card ∧ "HiFi" ≠ inactiveName ∧
    Sample.card.findVerb? "HiFi" = some 0 ∧ told.answer = .ok () ∧
    told.exchanges = (["Play Tone off", "Speaker off", "Mic off", "HiFi off", "HiFi on"].map
      fun control => .accepted (.set none control "1")) ∧
    told.activation = ⟨some 0, [], [], true⟩ := by
  intro told
  have other : "HiFi" ≠ inactiveName := by decide
  have defined : Sample.card.findVerb? "HiFi" = some 0 := by decide
  have good : told.answer = .ok () := by decide
  obtain ⟨w, found, -, -, sent, -⟩ :=
    setVerb_steps Recorder.backend playing_reachable other defined Recorder.fresh
  cases found
  exact ⟨playing_reachable, other, defined, good, (sent good).1, (sent good).2⟩

end UseCase.Rig
