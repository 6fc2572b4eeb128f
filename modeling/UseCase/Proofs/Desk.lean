import UseCase.Proofs.Mixer

/-!
# Requests to a desk

What a desk makes of the requests to its control surface, one after another, while the host may
change in between: values are only ever those of accepted controls, and a snapshot that was taken is
kept until the next one is taken.
-/

namespace UseCase.Desk

variable {d d' : Desk} {s : Snapshot} {device control : String}

/-! ## Single requests -/

/-- What a control surface can be asked for. -/
inductive Request where
  | apply (step : Step)
  | changed
  | store
  | restore
  deriving DecidableEq, Repr

/-- Does what is asked for. -/
def serve : Request → EStateM ControlFault Desk Unit
  | .apply step => backend.apply step
  | .changed => do let _ ← changed
  | .store => store
  | .restore => restore

/-- A step changes the value of an accepted control or leaves the mixer as it is. -/
lemma mixer_apply (step : Step) (d : Desk) :
    (after (backend.apply step d)).mixer = d.mixer ∨
      ∃ v, d.mixer.accepts v.control ∧ (after (backend.apply step d)).mixer = d.mixer.assign v := by
  cases step with
  | set device control value =>
    change (after (write _ d)).mixer = _ ∨ ∃ v, _ ∧ (after (write _ d)).mixer = _
    rw [write, Outcome.bind_ok (Outcome.get_apply d)]
    split_ifs with accepted
    · exact .inr ⟨_, accepted, rfl⟩
    · exact .inl rfl
  | execute command =>
    refine .inl ?_
    change (after (execute command d)).mixer = _
    rw [execute, Outcome.bind_ok (Outcome.get_apply d)]
    dsimp only
    generalize Shell.run command d.host.files d.host.input d.host.environment = outcome
    split_ifs
    · rfl
    · rw [Outcome.bind_apply]
      cases ended : outcome.ending with
      | exited status =>
        cases status <;> rfl
      | killed signal => rfl
    · rfl
  | sleep nanoseconds =>
    refine .inl ?_
    change (after (pause nanoseconds d)).mixer = _
    rw [pause, Outcome.bind_ok (Outcome.get_apply d)]
    split_ifs <;> rfl

/-- The snapshot in memory is what is stored. -/
lemma stored_of_cached (held : d.mixer.cached = some s) : stored d = .ok (some s) d := by
  rw [stored, Outcome.bind_ok (Outcome.get_apply d), held]
  rfl

/-- The snapshot in the state file is what is stored if there is none in memory. -/
lemma stored_of_load {path : String} (empty : d.mixer.cached = none)
    (file : d.mixer.stateFile = some path) {found : Option Snapshot}
    (loaded : Snapshot.load d.host.files path = .ok found) :
    stored d = .ok found { d with mixer := { d.mixer with cached := found } } := by
  rw [stored, Outcome.bind_ok (Outcome.get_apply d), empty, file]
  simp only [loaded]
  rfl

/-- A snapshot that is in memory anyway may be put there. -/
lemma with_cached {found : Option Snapshot} (held : d.mixer.cached = found) :
    { d with mixer := { d.mixer with cached := found } } = d := by
  subst held
  rfl

/-- The stored snapshot is left in memory, if there is one and it can be read. -/
lemma stored_cases (d : Desk) :
    (∃ found, stored d = .ok found { d with mixer := { d.mixer with cached := found } }) ∨
      ∃ cause, stored d = .error cause d := by
  cases held : d.mixer.cached with
  | some s => exact .inl ⟨some s, by rw [with_cached held, stored_of_cached held]⟩
  | none =>
    cases file : d.mixer.stateFile with
    | none =>
      refine .inl ⟨none, ?_⟩
      rw [with_cached held, stored, Outcome.bind_ok (Outcome.get_apply d), held, file]
      rfl
    | some path =>
      cases loaded : Snapshot.load d.host.files path with
      | ok found => exact .inl ⟨found, stored_of_load held file loaded⟩
      | error cause =>
        refine .inr ⟨cause, ?_⟩
        rw [stored, Outcome.bind_ok (Outcome.get_apply d), held, file]
        simp only [loaded]
        rfl

/-- The controls are unchanged if the stored snapshot is one of the same controls. -/
lemma changed_of_stored {found : Option Snapshot} (read : stored d = .ok found d') :
    changed d = .ok (!(found.any fun s => s.isOf d'.mixer.identifiers.names)) d' := by
  rw [changed, Outcome.bind_ok read]
  rfl

/-- Asking whether controls have changed does what asking for the snapshot does. -/
lemma after_changed (d : Desk) : after (changed d) = after (stored d) := by
  rw [changed, Outcome.bind_apply]
  cases stored d <;> rfl

/-- The values of the stored snapshot are written back. -/
lemma restore_of_stored (read : stored d = .ok (some s) d') :
    restore d = .ok () { d' with mixer := d'.mixer.writeBack s.values } := by
  rw [restore, Outcome.bind_ok read]
  rfl

/-- Restoring writes values of the snapshot and nothing else to the mixer. -/
lemma mixer_restore (d : Desk) :
    ∃ values, (after (restore d)).mixer = (after (stored d)).mixer.writeBack values := by
  cases read : stored d with
  | error cause d' =>
    rw [restore, Outcome.bind_error read]
    exact ⟨[], rfl⟩
  | ok found d' =>
    cases found with
    | none =>
      rw [restore, Outcome.bind_ok read]
      exact ⟨[], rfl⟩
    | some s =>
      rw [restore_of_stored read]
      exact ⟨s.values, rfl⟩

/-- A snapshot that is taken is kept in memory and was saved to the state file, or nothing is taken.
-/
lemma store_cases (d : Desk) :
    (∃ d', store d = .ok () d' ∧
      d'.mixer = { d.mixer with cached := some d.mixer.snapshot } ∧
      ∀ path, d.mixer.stateFile = some path →
        d.mixer.snapshot.save path d.host.files = .ok () d'.host.files) ∨
    ∃ cause d', store d = .error cause d' ∧ d'.mixer = d.mixer := by
  rw [store, Outcome.bind_ok (Outcome.get_apply d)]
  cases file : d.mixer.stateFile with
  | none => exact .inl ⟨_, rfl, rfl, by simp⟩
  | some path =>
    simp only [Outcome.bind_apply, onFiles, onPart]
    cases saved : d.mixer.snapshot.save path d.host.files with
    | ok _ files => exact .inl ⟨_, rfl, rfl, fun _ same => by cases same; exact saved⟩
    | error cause files => exact .inr ⟨_, _, rfl, rfl⟩

/-- Storing keeps the snapshot in memory, after saving it to the state file if there is one. -/
lemma store_ok (taken : store d = .ok () d') :
    d'.mixer = { d.mixer with cached := some d.mixer.snapshot } ∧
      ∀ path, d.mixer.stateFile = some path →
        d.mixer.snapshot.save path d.host.files = .ok () d'.host.files := by
  rcases store_cases d with ⟨d'', stored, done⟩ | ⟨cause, d'', failed, -⟩
  · cases taken.symm.trans stored
    exact done
  · cases taken.symm.trans failed

/-! ## One request after another -/

/-- Answering the question for changes does what asking for the snapshot does. -/
lemma after_serve_changed (d : Desk) : after (serve .changed d) = after (stored d) := by
  rw [← after_changed, serve, Outcome.bind_apply]
  cases changed d <;> rfl

/-- No request touches the controls that are not accepted. -/
lemma keeps_serve (r : Request) (d : Desk) : d.mixer.Keeps (after (serve r d)).mixer := by
  have asked : d.mixer.Keeps (after (stored d)).mixer := by
    rcases stored_cases d with ⟨found, read⟩ | ⟨cause, failed⟩
    · rw [read]
      exact d.mixer.keeps_cached found
    · rw [failed]
      exact .refl d.mixer
  cases r with
  | apply step =>
    rcases mixer_apply step d with same | ⟨v, accepted, same⟩
    · rw [serve, same]
      exact .refl d.mixer
    · rw [serve, same]
      exact Mixer.keeps_assign accepted
  | changed =>
    rw [after_serve_changed]
    exact asked
  | store =>
    rcases store_cases d with ⟨d', taken, same, -⟩ | ⟨cause, d', failed, same⟩
    · rw [serve, taken, after_ok, same]
      exact d.mixer.keeps_cached _
    · rw [serve, failed, after_error, same]
      exact .refl d.mixer
  | restore =>
    obtain ⟨values, same⟩ := mixer_restore d
    rw [serve, same]
    exact asked.trans (Mixer.keeps_writeBack _ values)

/-- Only taking a snapshot replaces the one in memory. -/
lemma cached_serve {r : Request} (other : r ≠ .store) (held : d.mixer.cached = some s) :
    (after (serve r d)).mixer.cached = some s := by
  have asked : (after (stored d)).mixer.cached = some s := by
    rw [stored_of_cached held, after_ok, held]
  cases r with
  | apply step =>
    rcases mixer_apply step d with same | ⟨v, -, same⟩
    · rw [serve, same, held]
    · rw [serve, same, ← held]
      rfl
  | changed => rw [after_serve_changed, asked]
  | store => exact absurd rfl other
  | restore =>
    obtain ⟨values, same⟩ := mixer_restore d
    obtain ⟨held', kept⟩ := (after (stored d)).mixer.exists_writeBack values
    rw [serve, same, kept, asked]

/-- The desks to which allowed requests lead, while the host may change by itself. -/
inductive Leads (allowed : Request → Prop) (d : Desk) : Desk → Prop
  | start : Leads allowed d d
  | request {d' : Desk} (r : Request) : allowed r → Leads allowed d d' →
    Leads allowed d (after (serve r d'))
  | outside {d' : Desk} (host : Host) : Leads allowed d d' →
    Leads allowed d { d' with host := host }

variable {allowed : Request → Prop}

/-- Two stretches of requests in a row are one. -/
lemma Leads.trans {d'' : Desk} (first : d.Leads allowed d') (next : d'.Leads allowed d'') :
    d.Leads allowed d'' := by
  induction next with
  | start => exact first
  | request r may _ ih => exact .request r may ih
  | outside host _ ih => exact .outside host ih

/-- What happens to a desk leaves the identifiers, the state file and the controls that are not
accepted. -/
lemma Leads.keeps (leads : d.Leads allowed d') : d.mixer.Keeps d'.mixer := by
  induction leads with
  | start => exact .refl d.mixer
  | request r _ _ ih => exact ih.trans (keeps_serve r _)
  | outside _ _ ih => exact ih

/-- The snapshot in memory stays until another one is stored. -/
lemma Leads.cached (leads : d.Leads allowed d') (other : ¬ allowed .store)
    (held : d.mixer.cached = some s) : d'.mixer.cached = some s := by
  induction leads with
  | start => exact held
  | request r may _ ih => exact cached_serve (fun same => other (same ▸ may)) ih
  | outside _ _ ih => exact ih

/-! ## Values -/

/-- A mixer without values at first, given to a host. -/
def opened (identifiers : List String) (pauses executes : Bool) (stateFile : Option String)
    (host : Host) : Desk :=
  ⟨.create identifiers pauses executes stateFile, host⟩

/-- Every value that a desk has belongs to a control that it accepts. -/
lemma Leads.accepts {identifiers : List String} {pauses executes : Bool}
    {stateFile : Option String} {host : Host}
    (leads : (opened identifiers pauses executes stateFile host).Leads allowed d)
    {value : String} (held : d.mixer.value? device control = some value) :
    d.mixer.accepts control := by
  by_contra refused
  rw [leads.keeps.accepts, Bool.not_eq_true] at refused
  rw [leads.keeps.value? refused] at held
  cases held

/-- A mixer holds values of registered controls only, if any are registered. The values that it
holds when a snapshot is taken are there again when the snapshot is written back, and all other
controls keep what they have then. -/
theorem Leads.values {identifiers : List String} {pauses executes : Bool}
    {stateFile : Option String} {host : Host}
    (leads : (opened identifiers pauses executes stateFile host).Leads allowed d) :
    (identifiers ≠ [] → ∀ device control value, d.mixer.value? device control = some value →
      control ∈ identifiers) ∧
    ∀ stored later, store d = .ok () stored → stored.Leads (· ≠ .store) later →
      (∀ device control, stored.mixer.value? device control = d.mixer.value? device control) ∧
      ∃ restored, restore later = .ok () restored ∧ ∀ device control,
        restored.mixer.value? device control =
          (d.mixer.value? device control).or (later.mixer.value? device control) := by
  refine ⟨fun some device control value held => ?_, fun taken later storing more => ?_⟩
  · have accepted := leads.accepts held
    rw [leads.keeps.accepts] at accepted
    obtain ⟨i, member⟩ := List.exists_mem_of_ne_nil identifiers some
    exact (Mixer.accepts_create.mp accepted).resolve_left fun none => none i member
  · obtain ⟨same, -⟩ := store_ok storing
    refine ⟨fun device control => by rw [same]; rfl, ?_⟩
    have held : later.mixer.cached = some d.mixer.snapshot :=
      more.cached (by simp) (by rw [same])
    refine ⟨_, restore_of_stored (stored_of_cached held), fun device control => ?_⟩
    have accepts : later.mixer.accepts = d.mixer.accepts := by
      rw [more.keeps.accepts, same]
      rfl
    -- A control that is not accepted has no value in the snapshot either.
    rw [Mixer.value?_writeBack, accepts]
    change (if _ then (Mixer.last? d.mixer.allValues device control).or _ else _) = _
    rw [Mixer.last?_allValues]
    split_ifs with accepted
    · rfl
    · cases value : d.mixer.value? device control with
      | none => rw [Option.none_or]
      | some _ => exact absurd (leads.accepts value) accepted

/-- A desk that accepts two controls and has no state file. -/
def twoControls : Desk :=
  opened ["Volume", "Mute"] false false none (.ofFiles (.empty []))

/-- A value that was overwritten comes back, and one that was first written later stays. -/
theorem values_of_twoControls :
    ∃ d stored later restored,
      twoControls.Leads (fun _ => True) d ∧ store d = .ok () stored ∧
      stored.Leads (· ≠ .store) later ∧
      later.mixer.value? "default" "Volume" = some "70" ∧
      later.mixer.value? "hw:1" "Mute" = some "on" ∧
      restore later = .ok () restored ∧
      restored.mixer.value? "default" "Volume" = some "30" ∧
      restored.mixer.value? "hw:1" "Mute" = some "on" ∧
      restored.mixer.value? "default" "Mute" = none := by
  let quiet : Request := .apply (.set none "Volume" "30")
  let loud : Request := .apply (.set none "Volume" "70")
  let mute : Request := .apply (.set (some "hw:1") "Mute" "on")
  let d := after (serve quiet twoControls)
  let stored := after (store d)
  let later := after (serve mute (after (serve loud stored)))
  have leads : twoControls.Leads (fun _ => True) d := .request quiet trivial .start
  have more : stored.Leads (· ≠ .store) later :=
    .request mute (by decide) (.request loud (by decide) .start)
  obtain ⟨-, restored, done, values⟩ := leads.values.2 stored later rfl more
  exact ⟨d, stored, later, restored, leads, rfl, more, rfl, rfl, done, values "default" "Volume",
    values "hw:1" "Mute", values "default" "Mute"⟩

end UseCase.Desk
