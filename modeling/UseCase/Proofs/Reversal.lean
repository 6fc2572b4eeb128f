import Mathlib.Tactic.Common
import UseCase.Lookup
import UseCase.Proofs.ActivationOrder
import UseCase.Proofs.Switching
import UseCase.Recorder
import UseCase.Sample

/-!
# Undoing an operation

Two operations can be undone (`Undoes`): enabling an entity by disabling it, and switching by
switching back, if sequences lead directly both ways. What is undone is exact: not only what was
active is so again, but also in the same order, since an entity that was added last is taken out of
that place (`remove_add`), and one that took a place leaves it to the one that had it
(`replace_replace`). The main statement is `Activation.Reachable.undone`.
-/

namespace UseCase

namespace Activation

variable {a : Activation} {kind : Kind} {i j : Nat}

/-- Taking an entity out undoes adding it. -/
lemma remove_add (off : i ∉ a.active kind) : (a.add kind i).remove kind i = a := by
  have others : (a.active kind).filter (fun k => k != i) = a.active kind := by
    refine List.filter_eq_self.mpr fun k member => bne_iff_ne.mpr ?_
    rintro rfl
    exact off member
  have last : [i].filter (fun k => k != i) = [] :=
    List.filter_cons_of_neg (by rw [bne_self_eq_false]; exact Bool.false_ne_true)
  rw [remove, add, setActive_setActive, active_setActive_self, List.filter_append, others, last,
    List.append_nil, setActive_active]

/-- Putting an entity back undoes putting another one into its place. -/
lemma replace_replace (off : j ∉ a.active kind) : (a.replace kind i j).replace kind j i = a := by
  have back : ((a.active kind).replace i j).replace j i = a.active kind := by
    by_cases on : i ∈ a.active kind
    · obtain ⟨front, back, split, first⟩ := List.eq_append_cons_of_mem on
      have absent : j ∉ front := fun member => off (split ▸ List.mem_append_left _ member)
      rw [split, List.replace_append_right first, List.replace_cons_self,
        List.replace_append_right absent, List.replace_cons_self]
    · rw [List.replace_of_not_mem on, List.replace_of_not_mem off]
  rw [replace, replace, setActive_setActive, active_setActive_self, back, setActive_active]

end Activation

namespace Rig

variable {σ : Type} {c : Card} {a : Activation}

/-- The second operation undoes the first. -/
inductive Undoes (c : Card) (a : Activation) : Operation → Operation → Prop
  | enable {v : Verb} {kind : Kind} {name : String} {i : Nat} : a.activeVerb? c = some v →
    v.find? kind name = some i → i ∉ a.active kind →
    Undoes c a (.command (.enable kind name)) (.command (.disable kind name))
  | switch {kind : Kind} {old new : String} {i j : Nat} : i ∈ a.active kind → j ∉ a.active kind →
    Direct c a kind i j (.command (.switch kind old new)) →
    Direct c a kind j i (.command (.switch kind new old)) →
    Undoes c a (.command (.switch kind old new)) (.command (.switch kind new old))

/-- Enabling an entity that is not active adds it, if it succeeds. -/
lemma activation_enable {b : Backend σ} {rig rig' : Rig σ} {u : Unit} {v : Verb} {kind : Kind}
    {name : String} {i : Nat} (fits : rig.activation.Fits c)
    (active : rig.activation.activeVerb? c = some v) (found : v.find? kind name = some i)
    (off : i ∉ rig.activation.active kind)
    (done : perform b c (.command (.enable kind name)) rig = .ok u rig') :
    rig'.activation = rig.activation.add kind i := by
  obtain ⟨stages, planned, ended⟩ := agenda_of_ok fits done
  rw [agenda_enable active found, if_neg fun on => off (isActive_iff.mp on)] at planned
  obtain ⟨-, -, planned⟩ := bind_eq_ok.mp planned
  cases planned
  exact ended

/-- Disabling an active entity takes it out, if it succeeds. -/
lemma activation_disable {b : Backend σ} {rig rig' : Rig σ} {u : Unit} {v : Verb} {kind : Kind}
    {name : String} {i : Nat} (fits : rig.activation.Fits c)
    (active : rig.activation.activeVerb? c = some v) (found : v.find? kind name = some i)
    (on : i ∈ rig.activation.active kind)
    (done : perform b c (.command (.disable kind name)) rig = .ok u rig') :
    rig'.activation = rig.activation.remove kind i := by
  obtain ⟨stages, planned, ended⟩ := agenda_of_ok fits done
  rw [agenda_disable active found on] at planned
  cases planned
  exact ended

/-- Disabling an entity at once after it was added leaves what was before. -/
lemma activation_disable_added {b : Backend σ} {rig rig' : Rig σ} {u : Unit} {v : Verb}
    {kind : Kind} {name : String} {i : Nat} (fits : rig.activation.Fits c)
    (active : a.activeVerb? c = some v) (found : v.find? kind name = some i)
    (off : i ∉ a.active kind) (added : rig.activation = a.add kind i)
    (done : perform b c (.command (.disable kind name)) rig = .ok u rig') :
    rig'.activation = a := by
  have active' : rig.activation.activeVerb? c = some v := by
    rw [added, ← active]
    exact Activation.activeVerb?_setActive
  have on : i ∈ rig.activation.active kind := by
    rw [added]
    exact Activation.mem_add.mpr (.inr rfl)
  rw [activation_disable fits active' found on done, added, Activation.remove_add off]

end Rig

namespace Activation

open Rig

variable {σ τ : Type} {c : Card} {a : Activation}

/-- If an operation and the one that undoes it both succeed, on whatever control surfaces, then the
activation is the same as before: the verb, both lists with their order, and the mark of the
defaults. So every query has the result that it had before. -/
theorem Reachable.undone (reached : a.Reachable c) {op op' : Operation}
    (undoes : Undoes c a op op') (b : Backend σ) (surface : σ) {rig : Rig σ}
    (done : perform b c op ⟨a, surface⟩ = .ok () rig) (b' : Backend τ) (surface' : τ)
    {rig' : Rig τ} (done' : perform b' c op' ⟨rig.activation, surface'⟩ = .ok () rig') :
    rig'.activation = a ∧
      ∀ q, Lookup.resolve c rig'.activation q = Lookup.resolve c a q := by
  let before : Rig σ := ⟨a, surface⟩
  let between : Rig τ := ⟨rig.activation, surface'⟩
  have fits : before.activation.Fits c := reached.fits
  have kept : rig.activation.Fits c := fits_of_ok fits done
  have fits' : between.activation.Fits c := kept
  suffices same : rig'.activation = a from ⟨same, fun q => by rw [same]⟩
  cases undoes with
  | @enable v kind name i active found off =>
    have added : between.activation = a.add kind i := activation_enable fits active found off done
    exact activation_disable_added fits' active found off added done'
  | @switch kind old new i j on off there back =>
    -- The new entity has the place of the old one, and in this place the old one comes back.
    have replaced : between.activation = a.replace kind i j := there.replaces fits on off done
    have back' : Direct c between.activation kind j i (.command (.switch kind new old)) := by
      refine back.congr ?_
      rw [replaced]
      exact activeVerb?_setActive
    have on' : j ∈ between.activation.active kind := by
      rw [replaced]
      exact (mem_replace (fits.once kind) on).mpr (.inr rfl)
    have off' : i ∉ between.activation.active kind := by
      rw [replaced]
      intro stays
      rcases (mem_replace (fits.once kind) on).mp stays with ⟨-, differs⟩ | same
      · exact differs rfl
      · exact off (same ▸ on)
    rw [back'.replaces fits' on' off' done', replaced, replace_replace off]

/-- A verb in which sequences lead directly from the speaker to the headphones and back. -/
def pairedVerb : Verb :=
  { Verb.plain "HiFi" with
    devices := [
      { Sample.entity .device "Speaker" 10 with
        transitions := [("Headphones", Sample.tagged "Speaker to Headphones")] },
      { Sample.entity .device "Headphones" 20 with
        transitions := [("Speaker", Sample.tagged "Headphones to Speaker")] },
      Sample.entity .device "Mic" 5,
      Sample.entity .device "Line" 15]
    modifiers := [Sample.entity .modifier "Play Tone" 100] }

/-- A card with this verb. -/
def pairedCard : Card := { Sample.card with verbs := [pairedVerb] }

/-- The speaker can be active between two other devices, and a modifier with them. -/
lemma paired_reachable : Activation.Reachable pairedCard ⟨some 0, [2, 0, 3], [0], true⟩ := by
  have verb : Activation.Reachable pairedCard ⟨some 0, [], [], true⟩ :=
    .led .fresh Recorder.backend (.command (.setVerb "HiFi")) .fresh (by decide)
  have microphone : Activation.Reachable pairedCard ⟨some 0, [2], [], true⟩ :=
    verb.led Recorder.backend (.command (.enable .device "Mic")) .fresh (by decide)
  have speaker : Activation.Reachable pairedCard ⟨some 0, [2, 0], [], true⟩ :=
    microphone.led Recorder.backend (.command (.enable .device "Speaker")) .fresh (by decide)
  have line : Activation.Reachable pairedCard ⟨some 0, [2, 0, 3], [], true⟩ :=
    speaker.led Recorder.backend (.command (.enable .device "Line")) .fresh (by decide)
  exact line.led Recorder.backend (.command (.enable .modifier "Play Tone")) .fresh (by decide)

/-- The headphones take the place of the speaker between two other devices, and then the speaker is
back in it. -/
theorem switched_back :
    let a : Activation := ⟨some 0, [2, 0, 3], [0], true⟩
    let there : Operation := .command (.switch .device "Speaker" "Headphones")
    let back : Operation := .command (.switch .device "Headphones" "Speaker")
    let run := perform Recorder.backend pairedCard
    let rig := after (run there ⟨a, .fresh⟩)
    let rig' := after (run back rig)
    a.Reachable pairedCard ∧ Undoes pairedCard a there back ∧ run there ⟨a, .fresh⟩ = .ok () rig ∧
    rig.activation = ⟨some 0, [2, 1, 3], [0], true⟩ ∧ run back rig = .ok () rig' ∧
    rig'.activation = a := by
  intro a there back run rig rig'
  have undoes : Undoes pairedCard a there back :=
    .switch (i := 0) (j := 1) (by decide) (by decide)
      (.intro rfl (by decide) (by decide) rfl rfl) (.intro rfl (by decide) (by decide) rfl rfl)
  have done : run there ⟨a, .fresh⟩ = .ok () rig := eq_ok_of_answer (by decide)
  have done' : run back rig = .ok () rig' := eq_ok_of_answer (by decide)
  obtain ⟨same, -⟩ := paired_reachable.undone undoes Recorder.backend Recorder.fresh done
    Recorder.backend rig.surface done'
  exact ⟨paired_reachable, undoes, done, by decide, done', same⟩

end Activation

end UseCase
