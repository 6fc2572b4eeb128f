import Mathlib.Tactic.Common
import UseCase.Proofs.Readiness

/-!
# Reachable activations

An activation of a card is reachable if operations lead to it from a fresh one, whatever the control
surfaces did on the way and however the operations ended. `perform_activation` says what one
operation makes of an activation: what the stages make of it that were completed. So an operation
keeps the invariant of activations (`perform_fits`), and under the invariant it fails for one of two
reasons: it is refused, or a sequence fails (`perform_fault`).

Under the invariant the status hides nothing: every active entity has a name and is listed
(`Activation.Fits.shown`).
-/

namespace UseCase

namespace Rig

variable {σ : Type} {b : Backend σ} {c : Card} {rig rig' : Rig σ}

/-- The stages that an operation completes. -/
def log (b : Backend σ) (c : Card) (op : Operation) (rig : Rig σ) : List Stage :=
  match agenda c rig.activation op with
  | .ok stages => completed b c stages rig
  | .error _ => []

/-- An operation makes of the activation what the completed stages make of it. -/
theorem perform_activation (fits : rig.activation.Fits c) (op : Operation) :
    (after (perform b c op rig)).activation = effects (log b c op rig) rig.activation := by
  rw [perform_eq_agenda b fits, log]
  cases agenda c rig.activation op with
  | error f => rfl
  | ok stages => exact after_runStages b c stages rig

/-- The completed stages were ready when their turn came. -/
lemma log_chained (fits : rig.activation.Fits c) (op : Operation) :
    Chained c rig.activation (log b c op rig) := by
  rw [log]
  cases planned : agenda c rig.activation op with
  | error f => trivial
  | ok stages => exact (agenda_chained fits planned).beginning (completed_begins b c stages rig)

/-- An operation completes the first stages of its agenda, or none at all. -/
lemma log_begins (b : Backend σ) (c : Card) (op : Operation) (rig : Rig σ) :
    log b c op rig = [] ∨
      ∃ stages, agenda c rig.activation op = .ok stages ∧ log b c op rig <+: stages := by
  rw [log]
  cases agenda c rig.activation op with
  | error f => exact .inl rfl
  | ok stages => exact .inr ⟨stages, rfl, completed_begins b c stages rig⟩

/-- An operation that succeeds has an agenda, and all of it has taken effect. -/
lemma agenda_of_ok {u : Unit} (fits : rig.activation.Fits c) {op : Operation}
    (done : perform b c op rig = .ok u rig') :
    ∃ stages, agenda c rig.activation op = .ok stages ∧
      rig'.activation = effects stages rig.activation := by
  rw [perform_eq_agenda b fits] at done
  cases planned : agenda c rig.activation op with
  | error f =>
    rw [planned] at done
    cases done
  | ok stages =>
    rw [planned] at done
    exact ⟨stages, rfl, activation_of_runStages b done⟩

/-- An operation keeps the invariant, however it ends. -/
theorem perform_fits (fits : rig.activation.Fits c) (op : Operation) :
    (after (perform b c op rig)).activation.Fits c := by
  rw [perform_activation fits]
  exact (log_chained fits op).fits fits List.prefix_rfl

/-- Where an operation succeeds, the invariant holds in the rig that it leaves. -/
lemma fits_of_ok {u : Unit} (fits : rig.activation.Fits c) {op : Operation}
    (done : perform b c op rig = .ok u rig') : rig'.activation.Fits c := by
  have kept := perform_fits (b := b) fits op
  rwa [done] at kept

/-- An operation fails only if it is refused or one of its sequences fails. -/
theorem perform_fault {f : Fault} (fits : rig.activation.Fits c) (op : Operation)
    (failed : perform b c op rig = .error f rig') : f.OfRefusal ∨ f.OfSequence := by
  rw [perform_eq_agenda b fits] at failed
  cases planned : agenda c rig.activation op with
  | error g =>
    rw [planned] at failed
    cases failed
    exact .inl (agenda_refuses op f planned)
  | ok stages =>
    rw [planned] at failed
    exact .inr ((agenda_chained fits planned).fault fits failed)

end Rig

namespace Activation

variable {c : Card} {a : Activation}

/-- The activations to which operations lead. -/
inductive Reachable (c : Card) : Activation → Prop
  | fresh : Reachable c .fresh
  /-- An operation, with the control surface that it meets. -/
  | step {a : Activation} {σ : Type} (b : Backend σ) (op : Rig.Operation) (surface : σ) :
    Reachable c a → Reachable c (after (Rig.perform b c op ⟨a, surface⟩)).activation

/-- An activation to which an operation leads from a reachable one is reachable. -/
lemma Reachable.led {σ : Type} {a' : Activation} (before : a.Reachable c) (b : Backend σ)
    (op : Rig.Operation) (surface : σ)
    (leads : (after (Rig.perform b c op ⟨a, surface⟩)).activation = a') : a'.Reachable c :=
  leads ▸ before.step b op surface

/-- A reachable activation fits its card. -/
theorem Reachable.fits (reached : a.Reachable c) : a.Fits c := by
  induction reached with
  | fresh => exact .fresh c
  | step b op surface _ ih => exact Rig.perform_fits ih op

/-- Whether the status tells the whole activation: nothing if no verb is active, and else the active
verb with the name of every active entity, in order. -/
def Shown (c : Card) (a : Activation) : Prop :=
  match a.verb with
  | none => a.status c = ⟨none, [], []⟩
  | some index => ∃ v, c.verb? index = some v ∧ (a.status c).verb = some v.name ∧
    (a.status c).devices.map some = a.devices.map (fun i => (v.entity? .device i).map Entity.name) ∧
    (a.status c).modifiers.map some =
      a.modifiers.map (fun i => (v.entity? .modifier i).map Entity.name)

/-- If there is an entity at each of the active positions then these are the active entities. -/
lemma map_some_entities {v : Verb} {kind : Kind}
    (inside : ∀ i ∈ a.active kind, i < (v.entities kind).length) :
    (a.entities v kind).map some = (a.active kind).map (v.entity? kind) := by
  rw [entities]
  generalize a.active kind = indices at inside ⊢
  induction indices with
  | nil => rfl
  | cons index rest ih =>
    obtain ⟨e, found⟩ := Rig.exists_entity (inside index List.mem_cons_self)
    have others := ih fun i member => inside i (List.mem_cons_of_mem index member)
    rw [List.filterMap_cons_some found, List.map_cons, List.map_cons, others, found]

/-- If there is an entity at each of the active positions then all of them are named. -/
lemma map_name_entities {v : Verb} {kind : Kind}
    (inside : ∀ i ∈ a.active kind, i < (v.entities kind).length) :
    ((a.entities v kind).map Entity.name).map some =
      (a.active kind).map fun i => (v.entity? kind i).map Entity.name := by
  have named := congrArg (List.map (Option.map Entity.name)) (map_some_entities inside)
  rw [List.map_map, List.map_map] at named
  rw [List.map_map]
  exact named

/-- An activation that fits its card is shown as a whole. -/
theorem Fits.shown (fits : a.Fits c) : a.Shown c := by
  rw [Shown]
  cases here : a.verb with
  | none => rw [status, Activation.activeVerb?, here]; rfl
  | some index =>
    obtain ⟨v, found, active⟩ := fits.activeVerb? here
    refine ⟨v, found, ?_⟩
    rw [status, active]
    have inside (kind : Kind) : ∀ i ∈ a.active kind, i < (v.entities kind).length :=
      fun i => fits.lt_length active
    exact ⟨rfl, map_name_entities (inside .device), map_name_entities (inside .modifier)⟩

end Activation

end UseCase
