import Mathlib.Tactic.Common
import UseCase.Proofs.Reachable
import UseCase.Recorder
import UseCase.Sample

/-!
# Devices that exclude each other

A device may name others as conflicting. The check of an entity that becomes active looks at its own
list only, so a device may become active although one that is active already names it. What cannot
happen is that two active devices name each other (`Activation.Reachable.exclusive`): the one that
became active last was checked beside the other. Where the lists of a verb are mutual, no active
device names another.

Of the stages of an operation only those matter that make a device active. `Admitted` says that
their entity was checked, and agendas have admitted stages only (`agenda_admitted`).
-/

namespace UseCase

/-- Whether two devices of a verb name each other as conflicting. -/
def Verb.Opposed (v : Verb) (i j : Nat) : Prop :=
  ∃ d e, v.entity? .device i = some d ∧ v.entity? .device j = some e ∧
    e.name ∈ d.constraint.conflictingDevices ∧ d.name ∈ e.constraint.conflictingDevices

/-- Whether every device that another one of the verb names as conflicting names that one too. -/
def Verb.Mutual (v : Verb) : Prop :=
  ∀ d ∈ v.devices, ∀ e ∈ v.devices,
    e.name ∈ d.constraint.conflictingDevices → d.name ∈ e.constraint.conflictingDevices

/-- No two active devices name each other as conflicting. -/
def Activation.Exclusive (c : Card) (a : Activation) : Prop :=
  ∀ v, a.activeVerb? c = some v → ∀ i ∈ a.devices, ∀ j ∈ a.devices, i ≠ j → ¬ v.Opposed i j

/-- No active device names another one as conflicting. -/
def Activation.Peaceful (c : Card) (a : Activation) : Prop :=
  ∀ v, a.activeVerb? c = some v → ∀ i ∈ a.devices, ∀ j ∈ a.devices, i ≠ j →
    ∀ d e, v.entity? .device i = some d → v.entity? .device j = some e →
      e.name ∉ d.constraint.conflictingDevices

variable {σ : Type} {c : Card} {a : Activation} {v : Verb} {i j : Nat}

/-- Opposition goes both ways. -/
lemma Verb.Opposed.symm (opposed : v.Opposed i j) : v.Opposed j i := by
  obtain ⟨d, e, hd, he, names, named⟩ := opposed
  exact ⟨e, d, he, hd, named, names⟩

/-- Where the lists are mutual it is enough that no two devices name each other. -/
lemma Activation.Exclusive.peaceful (exclusive : a.Exclusive c)
    (mutual_ : ∀ v, a.activeVerb? c = some v → v.Mutual) : a.Peaceful c := by
  intro v active i hi j hj differ d e hd he names
  have named := mutual_ v active d (List.mem_of_getElem? hd) e (List.mem_of_getElem? he) names
  exact exclusive v active i hi j hj differ ⟨d, e, hd, he, names, named⟩

/-- Without an active device there are none that exclude each other. -/
lemma Activation.Exclusive.of_no_device (none : a.devices = []) : a.Exclusive c := by
  intro v _ i member
  rw [none] at member
  cases member

/-- Fewer active devices of the same verb stay exclusive. -/
lemma Activation.Exclusive.mono {a' : Activation} (exclusive : a.Exclusive c)
    (verb : a'.verb = a.verb) (fewer : ∀ i ∈ a'.devices, i ∈ a.devices) : a'.Exclusive c := by
  intro v active i hi j hj
  rw [Activation.activeVerb?_congr verb] at active
  exact exclusive v active i (fewer i hi) j (fewer j hj)

/-- A device that joins others of the same verb which it does not name keeps them exclusive. -/
lemma Activation.Exclusive.join {a' : Activation} (new : Nat) (leaving : Option Nat)
    (exclusive : a.Exclusive c) (verb : a'.verb = a.verb)
    (others : ∀ i ∈ a'.devices, i = new ∨ i ∈ a.devices ∧ some i ≠ leaving)
    (admitted : ∀ v, a.activeVerb? c = some v → Rig.admission a v .device new leaving = .ok ()) :
    a'.Exclusive c := by
  have beside {v : Verb} (active : a.activeVerb? c = some v) {i : Nat} (member : i ∈ a.devices)
      (staying : some i ≠ leaving) : ¬ v.Opposed new i := by
    rintro ⟨d, e, hd, he, names, -⟩
    exact Rig.not_conflicting_of_admission hd (admitted v active) member staying he names
  intro v active i hi j hj differ
  rw [Activation.activeVerb?_congr verb] at active
  rcases others i hi with rfl | ⟨hi, stays⟩
  · rcases others j hj with rfl | ⟨hj, stays⟩
    · exact absurd rfl differ
    · exact beside active hj stays
  · rcases others j hj with rfl | ⟨hj, -⟩
    · exact fun opposed => beside active hi stays opposed.symm
    · exact exclusive v active i hi j hj differ

namespace Rig

/-! ## Admitted stages -/

/-- Whether the entity that a stage makes active, if it does, was checked. -/
def Stage.Admitted (c : Card) (a : Activation) : Stage → Prop
  | start kind index => ∀ v, a.activeVerb? c = some v → admission a v kind index none = .ok ()
  | transition kind old new => new ∉ a.active kind →
    ∀ v, a.activeVerb? c = some v → admission a v kind new (leaving kind old) = .ok ()
  | _ => True

/-- Each of some stages is admitted when those before it have taken effect. -/
def AllAdmitted (c : Card) : Activation → List Stage → Prop
  | _, [] => True
  | a, stage :: rest => stage.Admitted c a ∧ AllAdmitted c (stage.effect a) rest

/-- Stages that make no entity active are admitted. -/
lemma allAdmitted_of_forall {stages : List Stage}
    (all : ∀ stage ∈ stages, ∀ a, stage.Admitted c a) : AllAdmitted c a stages := by
  induction stages generalizing a with
  | nil => trivial
  | cons stage rest ih =>
    exact ⟨all stage List.mem_cons_self a, ih fun s member => all s (List.mem_cons_of_mem _ member)⟩

/-- A departure makes nothing active that would have to be admitted. -/
lemma admitted_of_mem_departure {stage : Stage} (member : stage ∈ departure c a)
    (a' : Activation) : stage.Admitted c a' := by
  rcases cases_of_mem_departure member with ⟨kind, index, rfl⟩ | rfl
  · trivial
  · trivial

/-- An arrival makes nothing active that would have to be admitted. -/
lemma admitted_of_mem_arrival {stage : Stage} {index : Nat} (member : stage ∈ arrival a index)
    (a' : Activation) : stage.Admitted c a' := by
  rcases cases_of_mem_arrival member with rfl | rfl
  · trivial
  · trivial

/-- In a handover the new entity is admitted if it was checked beside the devices that are active
without the old one. -/
lemma handover_admitted {kind : Kind} {old new : Nat} (name : String)
    (active : a.activeVerb? c = some v)
    (checked : new ∉ a.active kind → admission a v kind new (leaving kind old) = .ok ()) :
    AllAdmitted c a (handover a v kind old new name) := by
  rw [handover]
  split
  · refine ⟨fun absent w active' => ?_, trivial⟩
    rw [active] at active'
    cases active'
    exact checked absent
  · refine ⟨trivial, ?_⟩
    split_ifs with newActive
    · trivial
    · refine ⟨fun w active' => ?_, trivial⟩
      change (a.remove kind old).activeVerb? c = some w at active'
      rw [Activation.remove, Activation.activeVerb?_setActive, active] at active'
      cases active'
      change admission (a.remove kind old) v kind new none = _
      rw [admission_remove]
      exact checked fun on => newActive (isActive_iff.mpr on)

/-- The stages of an agenda are admitted when their turn comes. -/
theorem agenda_admitted {op : Operation} {stages : List Stage}
    (planned : agenda c a op = .ok stages) : AllAdmitted c a stages := by
  cases agenda_course planned with
  | fixedBoot | boot | defaults => exact ⟨trivial, trivial⟩
  | enabled | disabled | stay => trivial
  | disable => exact ⟨trivial, trivial⟩
  | quit => exact allAdmitted_of_forall fun stage member => admitted_of_mem_departure member
  | reset =>
    refine allAdmitted_of_forall fun stage member => ?_
    rcases List.mem_append.mp member with departing | last
    · exact admitted_of_mem_departure departing
    · rw [List.mem_singleton.mp last]
      exact fun _ => trivial
  | enter =>
    refine allAdmitted_of_forall fun stage member => ?_
    rcases List.mem_append.mp member with departing | arriving
    · exact admitted_of_mem_departure departing
    · exact admitted_of_mem_arrival arriving
  | enable active _ _ checked =>
    refine ⟨fun w active' => ?_, trivial⟩
    rw [active] at active'
    cases active'
    exact checked
  | switch active _ _ _ _ checked => exact handover_admitted _ active checked

/-! ## Exclusion -/

/-- A stage that is ready and admitted keeps the devices exclusive. -/
lemma Stage.Ready.keeps_exclusive {stage : Stage} (fits : a.Fits c) (ready : stage.Ready c a)
    (admitted : stage.Admitted c a) (exclusive : a.Exclusive c) : (stage.effect a).Exclusive c := by
  cases stage with
  | fixedBoot | boot => exact exclusive
  | defaults | forget => exact exclusive
  | enterVerb index => exact .of_no_device (fits.idle ready.2 .device)
  | leaveVerb => exact .of_no_device rfl
  | stop kind index =>
    exact exclusive.mono Activation.verb_setActive fun i => Activation.mem_devices_of_remove
  | start kind index =>
    cases kind with
    | modifier => exact exclusive.mono rfl fun _ member => member
    | device =>
      refine exclusive.join index none rfl (fun i member => ?_) admitted
      have added : i ∈ (a.add .device index).active .device := member
      rcases Activation.mem_add.mp added with old | new
      · exact .inr ⟨old, nofun⟩
      · exact .inl new
  | transition kind old new =>
    rw [Stage.effect]
    split_ifs with newActive
    · exact exclusive.mono Activation.verb_setActive fun i => Activation.mem_devices_of_remove
    · cases kind with
      | modifier => exact exclusive.mono rfl fun _ member => member
      | device =>
        obtain ⟨v, -, on, -, -⟩ := ready
        have absent : new ∉ a.active .device := fun on => newActive (isActive_iff.mpr on)
        refine exclusive.join new (some old) rfl (fun i member => ?_) (admitted absent)
        have replaced : i ∈ (a.replace .device old new).active .device := member
        rcases (Activation.mem_replace (fits.once .device) on).mp replaced with
          ⟨before, differs⟩ | new
        · exact .inr ⟨before, fun h => differs (Option.some.inj h)⟩
        · exact .inl new

/-- Stages that are ready and admitted keep the devices exclusive, wherever they end. -/
lemma Chained.keeps_exclusive {stages done : List Stage} (fits : a.Fits c)
    (chained : Chained c a stages) (admitted : AllAdmitted c a stages) (begun : done <+: stages)
    (exclusive : a.Exclusive c) : (effects done a).Exclusive c := by
  induction stages generalizing a done with
  | nil => rwa [List.prefix_nil.mp begun]
  | cons stage rest ih =>
    cases done with
    | nil => exact exclusive
    | cons first others =>
      obtain ⟨rfl, later⟩ := List.cons_prefix_cons.mp begun
      have next := chained.1.keeps_exclusive fits admitted.1 exclusive
      change (effects others (first.effect a)).Exclusive c
      exact ih (chained.1.fits fits) chained.2 admitted.2 later next

/-- An operation keeps the devices exclusive at every moment: whichever of its stages it has
completed. -/
lemma exclusive_effects (b : Backend σ) (op : Operation) {rig : Rig σ} {done : List Stage}
    (fits : rig.activation.Fits c) (exclusive : rig.activation.Exclusive c)
    (begun : done <+: log b c op rig) : (effects done rig.activation).Exclusive c := by
  rw [log] at begun
  cases planned : agenda c rig.activation op with
  | error f =>
    rw [planned] at begun
    rwa [List.prefix_nil.mp begun]
  | ok stages =>
    rw [planned] at begun
    exact (agenda_chained fits planned).keeps_exclusive fits (agenda_admitted planned)
      (begun.trans (completed_begins b c stages rig)) exclusive

end Rig

namespace Activation

/-- The devices of a reachable activation are exclusive. -/
lemma Reachable.toExclusive (reached : a.Reachable c) : a.Exclusive c := by
  induction reached with
  | fresh => exact .of_no_device rfl
  | step b op surface before ih =>
    rw [Rig.perform_activation before.fits]
    exact Rig.exclusive_effects b op before.fits ih List.prefix_rfl

/-- At no moment of a run two active devices of the active verb name each other as conflicting,
whatever operations there were, on whatever control surfaces, and however they ended: not when an
operation begins, and not after any of the stages that it completes. If the lists of the verb are
mutual, no active device names another one. -/
theorem Reachable.exclusive (reached : a.Reachable c) (b : Backend σ) (op : Rig.Operation)
    (surface : σ) {done : List Rig.Stage} (begun : done <+: Rig.log b c op ⟨a, surface⟩) :
    let now := Rig.effects done a
    now.Exclusive c ∧ ((∀ v, now.activeVerb? c = some v → v.Mutual) → now.Peaceful c) := by
  intro now
  have exclusive : now.Exclusive c :=
    Rig.exclusive_effects b op reached.fits reached.toExclusive begun
  exact ⟨exclusive, exclusive.peaceful⟩

/-- A verb in which the speaker and the headphones name each other as conflicting. -/
def rivalVerb : Verb :=
  { Verb.plain "HiFi" with
    devices := [
      { Sample.entity .device "Speaker" 10 with constraint := .conflicting ["Headphones"] },
      { Sample.entity .device "Headphones" 20 with constraint := .conflicting ["Speaker"] },
      Sample.entity .device "Mic" 5] }

/-- A card with this verb. -/
def rivalCard : Card := { Sample.card with verbs := [rivalVerb] }

/-- The microphone and the speaker can be active. -/
lemma speaking_reachable : Activation.Reachable rivalCard ⟨some 0, [2, 0], [], true⟩ := by
  have verb : Activation.Reachable rivalCard ⟨some 0, [], [], true⟩ :=
    .led .fresh Recorder.backend (.command (.setVerb "HiFi")) .fresh (by decide)
  have microphone : Activation.Reachable rivalCard ⟨some 0, [2], [], true⟩ :=
    verb.led Recorder.backend (.command (.enable .device "Mic")) .fresh (by decide)
  exact microphone.led Recorder.backend (.command (.enable .device "Speaker")) .fresh (by decide)

/-- When the headphones were started in the place of the speaker, no active device names another. -/
theorem exclusive_when_switched :
    let a : Activation := ⟨some 0, [2, 0], [], true⟩
    let done : List Rig.Stage := [.stop .device 0, .start .device 1]
    a.Reachable rivalCard ∧
    done <+: Rig.log Recorder.backend rivalCard (.command (.switch .device "Speaker" "Headphones"))
      ⟨a, .fresh⟩ ∧
    Rig.effects done a = ⟨some 0, [2, 1], [], true⟩ ∧ rivalVerb.Opposed 0 1 ∧ rivalVerb.Mutual ∧
    Activation.Peaceful rivalCard ⟨some 0, [2, 1], [], true⟩ := by
  intro a done
  have begun : done <+: Rig.log Recorder.backend rivalCard
      (.command (.switch .device "Speaker" "Headphones")) ⟨a, .fresh⟩ := by decide
  have opposed : rivalVerb.Opposed 0 1 := ⟨_, _, rfl, rfl, by decide, by decide⟩
  have mutual_ : rivalVerb.Mutual := by
    rw [Verb.Mutual]
    decide
  have exclusive := Reachable.exclusive speaking_reachable Recorder.backend
    (.command (.switch .device "Speaker" "Headphones")) Recorder.fresh begun
  refine ⟨speaking_reachable, begun, rfl, opposed, mutual_, exclusive.2 fun v active => ?_⟩
  cases active
  exact mutual_

end Activation

end UseCase
