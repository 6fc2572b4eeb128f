import Mathlib.Tactic.Common
import UseCase.Proofs.Command
import UseCase.Proofs.Reachable
import UseCase.Recorder
import UseCase.Sample
import UseCase.Session

/-!
# Reachable sessions

A session is reachable if it was opened and then operated on; between two operations the world may
change as it likes. The main statement `Session.Reachable.sound` says what then holds of the
session, whether its operations succeeded or failed: the card is valid, the activation is one of
this card and not of one that was open before, and no operation comes upon a position that the card
lacks.
-/

namespace UseCase

/-! ## Missing positions -/

/-- Defects for a position at which a card has no entity or verb. -/
def Defect.IsMissingIndex : Defect → Prop
  | .missingEntity _ _ _ | .missingVerb _ => True
  | _ => False

/-- Faults for a position at which a card has no entity or verb. -/
def Fault.IsMissingIndex : Fault → Prop
  | .configuration defect => defect.IsMissingIndex
  | _ => False

/-- A sequence does not fail for a missing position. -/
lemma Fault.OfSequence.not_isMissingIndex {f : Fault} (h : f.OfSequence) : ¬ f.IsMissingIndex := by
  cases f with
  | sequence label step cause => exact not_false
  | configuration defect => cases defect <;> first | exact not_false | exact h.elim
  | notFound _ | invalid _ | conflict _ _ | system _ | toml _ => exact h.elim

/-- A refusal is not for a missing position. -/
lemma Fault.OfRefusal.not_isMissingIndex {f : Fault} (h : f.OfRefusal) : ¬ f.IsMissingIndex := by
  cases f with
  | notFound _ | conflict _ _ => exact not_false
  | sequence _ _ _ | configuration _ | invalid _ | system _ | toml _ => exact h.elim

/-- Entities are not rejected for a missing position. -/
lemma Card.not_isMissingIndex_of_validateEntities {verb : String} {kind : Kind}
    {seen : List String} {entities : List Entity} {defect : Defect}
    (failed : validateEntities verb kind seen entities = .error defect) :
    ¬ defect.IsMissingIndex := by
  induction entities generalizing seen with
  | nil => cases failed
  | cons e rest ih =>
    rw [validateEntities] at failed
    split_ifs at failed
    · cases failed
      exact not_false
    · cases failed
      exact not_false
    · cases failed
      exact not_false
    · exact ih failed

/-- Verbs are not rejected for a missing position. -/
lemma Card.not_isMissingIndex_of_validateVerbs {seen : List String} {verbs : List Verb}
    {defect : Defect} (failed : validateVerbs seen verbs = .error defect) :
    ¬ defect.IsMissingIndex := by
  induction verbs generalizing seen with
  | nil => cases failed
  | cons v rest ih =>
    rw [validateVerbs] at failed
    split_ifs at failed
    · cases failed
      exact not_false
    · cases failed
      exact not_false
    · rcases bind_eq_error.mp failed with devices | ⟨_, -, failed⟩
      · exact not_isMissingIndex_of_validateEntities devices
      rcases bind_eq_error.mp failed with modifiers | ⟨_, -, others⟩
      · exact not_isMissingIndex_of_validateEntities modifiers
      · exact ih others

/-- A description is not rejected for a missing position. -/
lemma Card.not_isMissingIndex_of_validate {c : Card} {f : Fault} (failed : c.validate = .error f) :
    ¬ f.IsMissingIndex := by
  rw [validate] at failed
  cases checked : c.check with
  | ok u =>
    rw [checked] at failed
    cases failed
  | error defect =>
    rw [checked] at failed
    cases failed
    rw [check] at checked
    split_ifs at checked
    · cases checked
      exact not_false
    · exact not_isMissingIndex_of_validateVerbs checked

/-! ## Reading commands -/

/-- Reading a command fails only because its text is malformed. -/
lemma Command.fault_of_parse {identifier : String} {value : Option String} {f : Fault}
    (failed : parse identifier value = .error f) : ∃ cause, f = .invalid cause := by
  rcases parse_cases identifier value with ⟨c, read, -⟩ | refused | refused
  · cases failed.symm.trans read
  · cases failed.symm.trans refused
    exact ⟨_, rfl⟩
  · cases failed.symm.trans refused
    exact ⟨_, rfl⟩

/-! ## Sessions -/

namespace Session

variable {σ : Type} {l : Loader σ} {b : Backend σ} {s s' : Session σ} {f : Fault}

/-- What can be asked of a session, questions apart. -/
inductive Operation where
  | set (identifier : String) (value : Option String)
  | execute (command : Command)
  | reset
  | reload
  deriving DecidableEq, Repr

/-- Carries out an operation. -/
def perform (l : Loader σ) (b : Backend σ) : Operation → Op σ Unit
  | .set identifier value => set b identifier value
  | .execute command => execute b command
  | .reset => reset b
  | .reload => reload l

/-- The sessions to which operations lead. -/
inductive Reachable (l : Loader σ) (b : Backend σ) : Session σ → Prop
  | opened {id : Nat} {text : String} {state state' : σ} {s : Session σ} :
    open? l id text state = .ok s state' → Reachable l b s
  | step {s : Session σ} (op : Operation) :
    Reachable l b s → Reachable l b (after (perform l b op s))
  /-- The control surface, and whatever the loader reads, changes by itself. -/
  | drift {s : Session σ} (surface : σ) :
    Reachable l b s → Reachable l b { s with rig := { s.rig with surface := surface } }

/-- A session whose card is valid and whose activation is one of that card. -/
structure Sound (s : Session σ) : Prop where
  valid : s.card.validate = .ok ()
  reached : s.rig.activation.Reachable s.card

/-- Loading accepts what the loader answers if it is valid. -/
lemma loadValid_eq (l : Loader σ) (name : CardName) (state : σ) :
    loadValid l name state =
      match l.load name state with
      | .error f state' => .error f state'
      | .ok card state' =>
        match card.validate with
        | .error f => .error f state'
        | .ok _ => .ok card state' := by
  rw [loadValid, Outcome.bind_apply]
  cases l.load name state with
  | error f state' => rfl
  | ok card state' =>
    simp only
    cases card.validate <;> rfl

/-- A description that was loaded is valid. -/
lemma validate_of_loadValid {name : CardName} {state state' : σ} {card : Card}
    (loaded : loadValid l name state = .ok card state') : card.validate = .ok () := by
  rw [loadValid_eq] at loaded
  split at loaded
  · cases loaded
  · split at loaded
    · cases loaded
    · rename_i valid
      cases loaded
      exact valid

/-- Loading fails because the loader does, or because the description is not valid. -/
lemma fault_of_loadValid {name : CardName} {state state' : σ}
    (failed : loadValid l name state = .error f state') :
    l.load name state = .error f state' ∨ ∃ card : Card, card.validate = .error f := by
  rw [loadValid_eq] at failed
  split at failed
  · rename_i found
    cases failed
    exact .inl found
  · split at failed
    · rename_i invalid
      cases failed
      exact .inr ⟨_, invalid⟩
    · cases failed

/-- A reload takes the new description and forgets the activation, or changes the surface alone. -/
lemma reload_eq (l : Loader σ) (s : Session σ) :
    reload l s =
      match loadValid l s.name s.rig.surface with
      | .error f surface => .error f { s with rig := { s.rig with surface := surface } }
      | .ok card surface => .ok () { s with card := card, rig := ⟨.fresh, surface⟩ } := by
  rw [reload, Outcome.bind_ok (Outcome.get_apply s), Outcome.bind_apply, onState]
  dsimp only [onRig, Rig.onSurface, onPart]
  cases loadValid l s.name s.rig.surface <;> rfl

/-- A session is sound when it was opened. -/
lemma Sound.opened {id : Nat} {text : String} {state state' : σ}
    (h : open? l id text state = .ok s state') : s.Sound := by
  rw [open?] at h
  split at h
  · cases h
  · split at h
    · cases h
    · rename_i loaded
      cases h
      exact ⟨validate_of_loadValid loaded, .fresh⟩

/-- What happens to the rig leaves the rest of a session as it is. -/
lemma after_onRig {α : Type} (x : Card → Rig.Op σ α) (s : Session σ) :
    after (onRig x s) = { s with rig := after (x s.card s.rig) } :=
  Outcome.after_onPart _ _ _ _

/-- A session answers what its rig answers. -/
lemma answer_onRig {α : Type} (x : Card → Rig.Op σ α) (s : Session σ) :
    answer (onRig x s) = answer (x s.card s.rig) :=
  Outcome.answer_onPart _ _ _ _

/-- Executing a command performs it on the rig. -/
lemma execute_eq (b : Backend σ) (command : Command) :
    execute b command = onRig fun c => Rig.perform b c (.command command) := by
  cases command <;> rfl

/-- Operations on the rig keep a session sound. -/
lemma Sound.of_rig (sound : s.Sound) (op : Rig.Operation) :
    (after (onRig (fun c => Rig.perform b c op) s)).Sound := by
  rw [after_onRig]
  exact ⟨sound.valid, .step b op s.rig.surface sound.reached⟩

/-- A session stays sound when the world changes. -/
lemma Sound.drift (sound : s.Sound) (surface : σ) :
    Sound { s with rig := { s.rig with surface := surface } } :=
  ⟨sound.valid, sound.reached⟩

/-- Loading a description anew keeps a session sound, also when it fails. -/
lemma Sound.reloaded (sound : s.Sound) : (after (reload l s)).Sound := by
  rw [reload_eq]
  cases loaded : loadValid l s.name s.rig.surface with
  | error f surface => exact sound.drift surface
  | ok card surface => exact ⟨validate_of_loadValid loaded, .fresh⟩

/-- An operation keeps a session sound. -/
lemma Sound.performed (sound : s.Sound) (op : Operation) : (after (perform l b op s)).Sound := by
  cases op with
  | set identifier value =>
    rw [Session.perform, set]
    cases Command.parse identifier value with
    | error f => exact sound
    | ok command =>
      change (after (execute b command s)).Sound
      rw [execute_eq]
      exact sound.of_rig (.command command)
  | execute command =>
    rw [Session.perform, execute_eq]
    exact sound.of_rig (.command command)
  | reset => exact sound.of_rig .reset
  | reload => exact sound.reloaded

/-- An operation on the rig of a sound session does not fail for a missing position. -/
lemma Sound.fault_onRig (sound : s.Sound) (op : Rig.Operation)
    (failed : answer (onRig (fun c => Rig.perform b c op) s) = .error f) : ¬ f.IsMissingIndex := by
  rw [answer_onRig] at failed
  rcases Rig.perform_fault sound.reached.fits op (eq_error_of_answer failed) with refused | stopped
  · exact refused.not_isMissingIndex
  · exact stopped.not_isMissingIndex

/-- A reload fails for a missing position only if the loader does. -/
lemma fault_of_reload (failed : answer (reload l s) = .error f) (missing : f.IsMissingIndex) :
    answer (l.load s.name s.rig.surface) = .error f := by
  rw [reload_eq] at failed
  cases loaded : loadValid l s.name s.rig.surface with
  | ok card surface =>
    rw [loaded] at failed
    cases failed
  | error g surface =>
    rw [loaded] at failed
    cases failed
    rcases fault_of_loadValid loaded with asked | ⟨card, invalid⟩
    · rw [asked]
      rfl
    · exact absurd missing (Card.not_isMissingIndex_of_validate invalid)

/-- An operation fails for a missing position only if it is a reload and the loader does. -/
lemma Sound.fault (sound : s.Sound) {op : Operation}
    (failed : answer (perform l b op s) = .error f) (missing : f.IsMissingIndex) :
    op = .reload ∧ answer (l.load s.name s.rig.surface) = .error f := by
  cases op with
  | set identifier value =>
    rw [Session.perform, set] at failed
    cases parsed : Command.parse identifier value with
    | error g =>
      rw [parsed] at failed
      cases failed
      obtain ⟨cause, rfl⟩ := Command.fault_of_parse parsed
      exact missing.elim
    | ok command =>
      rw [parsed] at failed
      change answer (execute b command s) = _ at failed
      rw [execute_eq] at failed
      exact absurd missing (sound.fault_onRig (.command command) failed)
  | execute command =>
    rw [Session.perform, execute_eq] at failed
    exact absurd missing (sound.fault_onRig (.command command) failed)
  | reset => exact absurd missing (sound.fault_onRig .reset failed)
  | reload => exact ⟨rfl, fault_of_reload failed missing⟩

/-- A session that was reached is sound. -/
lemma Reachable.toSound (reached : s.Reachable l b) : s.Sound := by
  induction reached with
  | opened h => exact .opened h
  | step op _ ih => exact ih.performed op
  | drift surface _ ih => exact ih.drift surface

/-- In every session that can be reached the card is valid, the activation is one of the card, and
the status tells all of it. No operation fails because a position has no entity or verb, except that
a reload passes on whatever the loader answers. -/
theorem Reachable.sound (reached : s.Reachable l b) :
    s.card.validate = .ok () ∧ s.rig.activation.Fits s.card ∧ s.rig.activation.Shown s.card ∧
      ∀ op f, answer (perform l b op s) = .error f → f.IsMissingIndex →
        op = .reload ∧ answer (l.load s.name s.rig.surface) = .error f := by
  have sound := reached.toSound
  exact ⟨sound.valid, sound.reached.fits, sound.reached.fits.shown,
    fun op f failed missing => sound.fault failed missing⟩

/-- The loader that always answers with the same card. -/
def serving (card : Card) : Loader σ := ⟨fun _ => pure card, pure []⟩

/-- A session in which leaving a verb failed after one of two devices was disabled. -/
def halfway : Session Recorder :=
  let start : Session Recorder := ⟨0, .named "TestCard", Sample.card, ⟨.fresh, .fresh⟩⟩
  let run (op : Operation) (s : Session Recorder) : Session Recorder :=
    after (perform (serving Sample.card) Recorder.backend op s)
  let playing := run (.execute (.enable .device "Mic")) <|
    run (.set "_enadev" (some "Speaker")) <| run (.set "_verb" (some "HiFi")) start
  run .reset { playing with rig.surface := playing.rig.surface.failOn "Mic off" }

/-- The session is reached from its opening, through a failure. -/
lemma halfway_reachable : halfway.Reachable (serving Sample.card) Recorder.backend := by
  have opened : open? (serving Sample.card) 0 "TestCard" Recorder.fresh =
      .ok ⟨0, .named "TestCard", Sample.card, ⟨.fresh, .fresh⟩⟩ .fresh := by rfl
  dsimp only [halfway]
  exact .step _ (.drift _ (.step _ (.step _ (.step _ (.opened opened)))))

/-- After half of a teardown the verb is still active with the device that is left. -/
theorem halfway_sound :
    halfway.rig.activation = ⟨some 0, [2], [], true⟩ ∧ halfway.status = ⟨some "HiFi", ["Mic"], []⟩ ∧
      halfway.card.validate = .ok () ∧ halfway.rig.activation.Fits halfway.card ∧
      halfway.rig.activation.Shown halfway.card :=
  have sound := Reachable.sound halfway_reachable
  ⟨by decide, by decide, sound.1, sound.2.1, sound.2.2.1⟩

end Session

end UseCase
