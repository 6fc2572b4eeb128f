import Mathlib.Tactic.Common
import UseCase.Proofs.Session
import UseCase.Proofs.VerbChange

/-!
# Listed verbs

The verbs of a card are listed by name, and a verb is entered by name. One name is kept apart:
setting it means to leave the active verb without entering another, whether the card has a verb of
this name or not. The main statement `Session.Reachable.enters_listed` says that every other listed
verb is the one that is active after it was set, and nothing else is.
-/

namespace UseCase

variable {σ : Type} {c : Card} {name : String} {index : Nat}

/-! ## Setting a verb -/

namespace Rig

variable {b : Backend σ} {rig rig' : Rig σ}

/-- Setting a verb of the card makes it active, and nothing else. -/
lemma activation_of_enter (fits : rig.activation.Fits c) (other : name ≠ inactiveName)
    (defined : c.findVerb? name = some index)
    (done : perform b c (.command (.setVerb name)) rig = .ok () rig') :
    rig'.activation = ⟨some index, [], [], true⟩ := by
  rw [perform_eq_agenda b fits, agenda_setVerb other defined, follow] at done
  rw [activation_of_runStages b done, effects_append, effects_departure fits, effects_arrival]

/-- After the verb was set to the inactive one, nothing is active. -/
lemma activation_of_quit (fits : rig.activation.Fits c)
    (done : perform b c (.command (.setVerb inactiveName)) rig = .ok () rig') :
    rig'.activation = rig.activation.leave := by
  rw [perform_eq_agenda b fits, agenda_quit, follow] at done
  rw [activation_of_runStages b done, effects_departure fits]

/-- Setting a verb of the card fails only as a sequence does. -/
lemma fault_of_enter (fits : rig.activation.Fits c) (other : name ≠ inactiveName)
    (defined : c.findVerb? name = some index) {f : Fault}
    (failed : perform b c (.command (.setVerb name)) rig = .error f rig') : f.OfSequence := by
  have planned := agenda_setVerb (a := rig.activation) other defined
  rw [perform_eq_agenda b fits, planned, follow] at failed
  exact (agenda_chained fits planned).fault fits failed

end Rig

/-- A name is that of a verb exactly if a verb with this name is found. -/
lemma Card.findVerb?_isSome_iff : (c.findVerb? name).isSome ↔ name ∈ c.verbs.map Verb.name := by
  rw [Card.findVerb?, List.findIdx?_isSome, List.any_eq_true, List.mem_map]
  exact exists_congr fun v => and_congr_right fun _ => beq_iff_eq

/-- A verb that was just entered is the one of its name, and nothing else is active. -/
lemma Activation.status_entered (defined : c.findVerb? name = some index) (applied : Bool) :
    status ⟨some index, [], [], applied⟩ c = ⟨some name, [], []⟩ := by
  obtain ⟨v, found, rfl⟩ := Card.verb?_of_findVerb? defined
  have active : activeVerb? ⟨some index, [], [], applied⟩ c = some v := found
  rw [status, active]
  rfl

/-- A name that is not empty is read as the verb to set. -/
lemma Command.parse_verb (named : name ≠ "") :
    parse "_verb" (some name) = .ok (.setVerb name) :=
  parse_valued named rfl rfl rfl

namespace Session

variable {l : Loader σ} {b : Backend σ} {s s' : Session σ}

/-- The list of verbs has every verb of the card, with its comment. -/
lemma list_verbs (l : Loader σ) (s : Session σ) :
    list l (some "_verbs") s = .ok (s.card.verbs.map fun v => ⟨v.name, v.comment⟩) s := by
  have read : Listing.parse (some "_verbs") = .ok .verbs := by rfl
  rw [list, read]
  rfl

/-- Setting the verb by its identifier performs the command for it. -/
lemma set_verb (b : Backend σ) (named : name ≠ "") (s : Session σ) :
    set b "_verb" (some name) s =
      onRig (fun c => Rig.perform b c (.command (.setVerb name))) s := by
  rw [set, Command.parse_verb named, ← execute_eq]
  rfl

/-- After a name was set the card is the same, and the rig the one that the operation left. -/
lemma rig_of_set (named : name ≠ "") (done : set b "_verb" (some name) s = .ok () s') :
    s'.card = s.card ∧
      Rig.perform b s.card (.command (.setVerb name)) s.rig = .ok () s'.rig := by
  rw [set_verb b named] at done
  have good := answer_onRig (fun c => Rig.perform b c (.command (.setVerb name))) s
  have ended := after_onRig (fun c => Rig.perform b c (.command (.setVerb name))) s
  rw [done] at good ended
  have ended : s' = _ := ended
  refine ⟨by rw [ended], (eq_ok_of_answer good.symm).trans ?_⟩
  rw [ended]

/-- In every session that can be reached, if the name of a listed verb is set and is not the one
that is kept apart, then this verb is active afterwards and nothing else is; and if that fails, it
is because of a sequence. The name that is kept apart leaves no verb active. -/
theorem Reachable.enters_listed (reached : s.Reachable l b) :
    ∃ entries, list l (some "_verbs") s = .ok entries s ∧
      entries.map Entry.name = s.card.verbs.map Verb.name ∧
      (∀ entry ∈ entries, entry.name ≠ inactiveName →
        (∀ s', set b "_verb" (some entry.name) s = .ok () s' →
          s'.status = ⟨some entry.name, [], []⟩) ∧
        ∀ f s', set b "_verb" (some entry.name) s = .error f s' → f.OfSequence) ∧
      ∀ s', set b "_verb" (some inactiveName) s = .ok () s' → s'.status = ⟨none, [], []⟩ := by
  have sound := reached.toSound
  have fits := sound.reached.fits
  have names : ((s.card.verbs.map fun v => (⟨v.name, v.comment⟩ : Entry)).map Entry.name) =
      s.card.verbs.map Verb.name := by
    rw [List.map_map]
    rfl
  refine ⟨_, list_verbs l s, names, fun entry listed other => ?_, fun s' done => ?_⟩
  · obtain ⟨v, member, rfl⟩ := List.mem_map.mp listed
    have named : v.name ≠ "" := ((Card.validate_iff.mp sound.valid).verbs v member).named
    obtain ⟨index, defined⟩ := Option.isSome_iff_exists.mp
      (Card.findVerb?_isSome_iff.mpr (List.mem_map_of_mem member))
    refine ⟨fun s' done => ?_, fun f s' failed => ?_⟩
    · obtain ⟨same, done⟩ := rig_of_set named done
      rw [status, same, Rig.activation_of_enter fits other defined done]
      exact Activation.status_entered defined true
    · have bad := answer_onRig (fun c => Rig.perform b c (.command (.setVerb v.name))) s
      rw [← set_verb b named, failed] at bad
      exact Rig.fault_of_enter fits other defined (eq_error_of_answer bad.symm)
  · obtain ⟨same, done⟩ := rig_of_set (by decide) done
    rw [status, same, Rig.activation_of_quit fits done]
    rfl

/-- After a failed teardown the other verb is entered once nothing is refused any more. -/
theorem halfway_enters_voice_call :
    let s := { halfway with rig.surface := Recorder.fresh }
    let s' := after (set Recorder.backend "_verb" (some "Voice Call") s)
    s.Reachable (serving Sample.card) Recorder.backend ∧ s.status = ⟨some "HiFi", ["Mic"], []⟩ ∧
      set Recorder.backend "_verb" (some "Voice Call") s = .ok () s' ∧
      s'.status = ⟨some "Voice Call", [], []⟩ := by
  intro s s'
  have reached : s.Reachable (serving Sample.card) Recorder.backend :=
    .drift Recorder.fresh halfway_reachable
  have done : set Recorder.backend "_verb" (some "Voice Call") s = .ok () s' := by rfl
  obtain ⟨entries, listed, names, entered, -⟩ := Reachable.enters_listed reached
  have there : "Voice Call" ∈ entries.map Entry.name := by
    rw [names]
    decide
  obtain ⟨entry, member, named⟩ := List.mem_map.mp there
  have active := (entered entry member (by rw [named]; decide)).1 s' (by rw [named]; exact done)
  exact ⟨reached, by rfl, done, by rw [active, named]⟩

/-- A card with a verb of the name that is kept apart. -/
def idle : Card :=
  { Sample.card with verbs := [.plain inactiveName] }

/-- A session of this card that was just opened. -/
def idling : Session Recorder :=
  ⟨0, .named "TestCard", idle, ⟨.fresh, .fresh⟩⟩

/-- A verb of the name that is kept apart is listed, and setting it leaves no verb active. -/
theorem idle_not_entered :
    let s' := after (set Recorder.backend "_verb" (some "Inactive") idling)
    idle.validate = .ok () ∧ idling.Reachable (serving idle) Recorder.backend ∧
      list (serving idle) (some "_verbs") idling = .ok [⟨"Inactive", none⟩] idling ∧
      set Recorder.backend "_verb" (some "Inactive") idling = .ok () s' ∧
      s'.status = ⟨none, [], []⟩ ∧ s'.status ≠ ⟨some "Inactive", [], []⟩ := by
  have opened : open? (serving idle) 0 "TestCard" Recorder.fresh = .ok idling .fresh := by rfl
  exact ⟨by rfl, .opened opened, by rfl, by rfl, by rfl, by decide⟩

end Session

end UseCase
