import Mathlib.Data.List.Nodup
import Mathlib.Tactic.Common
import UseCase.Proofs.Session

/-!
# Views of an activation

What is active can be asked for in three ways: as the status, as the list of the active entities,
and by name as a number that is one or zero. The activation itself keeps positions, so that the
first two go from positions to names and the last one from a name to a position. That they agree
rests on the names of a valid card, which are different, and on the invariant of reachable
activations.

The main statement is `Session.Reachable.views`.
-/

namespace UseCase

variable {c : Card} {a : Activation} {v : Verb} {kind : Kind} {name : String} {index : Nat}

/-! ## Identifiers -/

namespace Kind

/-- The identifier of the list of the active entities. -/
def activeList : Kind → String
  | .device => "_enadevs"
  | .modifier => "_enamods"

/-- The identifier of the list of all entities of the active verb. -/
def wholeList : Kind → String
  | .device => "_devices"
  | .modifier => "_modifiers"

/-- The word that asks whether an entity is active. -/
def statusWord : Kind → String
  | .device => "_devstatus"
  | .modifier => "_modstatus"

/-- The identifier of the number that tells whether an entity is active. -/
def statusNumber (kind : Kind) (name : String) : String :=
  kind.statusWord ++ "/" ++ name

end Kind

/-- The listing of the active entities of a kind is read from its name. -/
lemma Listing.parse_activeList (kind : Kind) :
    parse (some kind.activeList) = .ok (.active kind) := by
  cases kind <;> rfl

/-- The listing of all entities of a kind is read from its name. -/
lemma Listing.parse_wholeList (kind : Kind) :
    parse (some kind.wholeList) = .ok (.entities kind none) := by
  cases kind <;> rfl

/-- The identifier of the number is read as a question for the status, whatever the name is. -/
lemma NumberQuery.parse_statusNumber (kind : Kind) (named : name ≠ "") :
    parse (kind.statusNumber name) = .ok (.status kind name) := by
  have whole : '/' ∉ kind.statusWord.toList := by cases kind <;> decide
  have word : statusKind? kind.statusWord.toList = some kind := by cases kind <;> rfl
  have some : name.toList ≠ [] := fun empty => named (String.toList_eq_nil_iff.mp empty)
  rw [parse, Kind.statusNumber, Text.cut_behind whole, Option.getD_some]
  simp only [word]
  rw [if_neg some, String.ofList_toList]

/-! ## Names and positions -/

/-- A verb has an entity of a name exactly if the name is found. -/
lemma Verb.mem_names : name ∈ (v.entities kind).map Entity.name ↔ (v.find? kind name).isSome := by
  rw [Verb.find?, List.findIdx?_isSome, List.any_eq_true, List.mem_map]
  exact exists_congr fun e => and_congr_right fun _ => beq_iff_eq.symm

namespace Activation

/-- An entity of a name is active exactly if the position that is found for the name is. -/
lemma mem_names (distinct : ((v.entities kind).map Entity.name).Nodup)
    (found : v.find? kind name = some index) :
    name ∈ (a.entities v kind).map Entity.name ↔ index ∈ a.active kind := by
  obtain ⟨e, there, named⟩ := Verb.entity?_of_find? found
  rw [List.mem_map]
  constructor
  · rintro ⟨e', member, named'⟩
    obtain ⟨i, active, there'⟩ := List.mem_filterMap.mp member
    -- The active entity of this name is at its own position, and names are different.
    rwa [position_unique distinct there there' (named.trans named'.symm)]
  · intro active
    exact ⟨e, List.mem_filterMap.mpr ⟨index, active, there⟩, named⟩

/-- Active entities are entities of the verb. -/
lemma entities_subset : a.entities v kind ⊆ v.entities kind := by
  intro e member
  obtain ⟨i, -, there⟩ := List.mem_filterMap.mp member
  exact List.mem_of_getElem? there

/-- No name is active twice. -/
lemma nodup_names (fits : a.Fits c) (active : a.activeVerb? c = some v)
    (distinct : ((v.entities kind).map Entity.name).Nodup) :
    ((a.entities v kind).map Entity.name).Nodup := by
  -- By positions, each of which has an entity, since these are known to be different.
  refine List.Nodup.of_map some ?_
  rw [map_name_entities fun i => fits.lt_length active]
  refine (fits.once kind).map_on fun i here j here' same => ?_
  obtain ⟨e, there⟩ := Rig.exists_entity (fits.lt_length active here)
  obtain ⟨e', there'⟩ := Rig.exists_entity (fits.lt_length active here')
  rw [there, there'] at same
  exact position_unique distinct there there' (Option.some.inj same)

/-- An entity of the active verb is enabled if it is active. -/
lemma isEnabled_eq (here : a.verb = some index) (found : c.verb? index = some v) :
    a.isEnabled c kind name =
      match v.find? kind name with
      | none => .error (.notFound (.entity kind name v.name))
      | some i => .ok (a.isActive kind i) := by
  cases sought : v.find? kind name <;> simp only [isEnabled, here, found, sought]

end Activation

/-- The names of a kind in a status. -/
def Status.names (status : Status) : Kind → List String
  | .device => status.devices
  | .modifier => status.modifiers

/-! ## Questions -/

namespace Session

variable {σ : Type} {l : Loader σ} {b : Backend σ} {s : Session σ}

/-- The active entities of a kind are listed with their comments. -/
lemma list_activeList (l : Loader σ) (kind : Kind) (s : Session σ) :
    list l (some kind.activeList) s = .ok ((s.activeEntities kind).map entryOf) s := by
  rw [list, Listing.parse_activeList]
  rfl

/-- With an active verb all of its entities are listed. -/
lemma list_wholeList (l : Loader σ) (active : s.rig.activation.activeVerb? s.card = some v) :
    list l (some kind.wholeList) s = .ok ((v.entities kind).map entryOf) s := by
  have meant : s.verbOrActive none = .ok v := by
    rw [verbOrActive, active]
  have answered : s.listed (.entities kind none) = .ok ((v.entities kind).map entryOf) := by
    rw [listed, meant]
    rfl
  rw [list, Listing.parse_wholeList]
  change (ofExcept (s.listed (.entities kind none)) : Op σ (List Entry)) s = _
  rw [answered]
  rfl

/-- The number for a name says whether it is active. -/
lemma geti_statusNumber (named : name ≠ "") :
    s.geti (kind.statusNumber name) =
      (fun enabled => if enabled then 1 else 0) <$>
        s.rig.activation.isEnabled s.card kind name := by
  rw [geti, NumberQuery.parse_statusNumber kind named]
  change (do
    let enabled ← s.rig.activation.isEnabled s.card kind name
    return if enabled then (1 : Int) else 0) = _
  cases s.rig.activation.isEnabled s.card kind name <;> rfl

/-- The entries of a list have the names of the entities. -/
lemma map_name_entryOf (entities : List Entity) :
    (entities.map entryOf).map Entry.name = entities.map Entity.name := by
  rw [List.map_map]
  rfl

/-- In a sound session the entities of a verb go by different names. -/
lemma Sound.distinct (sound : s.Sound) {index : Nat} (found : s.card.verb? index = some v)
    (kind : Kind) : ((v.entities kind).map Entity.name).Nodup :=
  ((Card.validate_iff.mp sound.valid).verbs v (List.mem_of_getElem? found)).distinct kind

/-- With an active verb the number is one for what is active, zero for what else the verb has, and
there is none for what it lacks. -/
lemma geti_of_active (sound : s.Sound) {index : Nat} (here : s.rig.activation.verb = some index)
    (found : s.card.verb? index = some v) (named : name ≠ "") :
    let answer := s.geti (kind.statusNumber name)
    let enabled := (s.rig.activation.entities v kind).map Entity.name
    let defined := (v.entities kind).map Entity.name
    (answer = .ok 1 ↔ name ∈ enabled) ∧ (answer = .ok 0 ↔ name ∈ defined ∧ name ∉ enabled) ∧
      ((∃ what, answer = .error (.notFound what)) ↔ name ∉ defined) := by
  intro answer enabled defined
  have among : enabled ⊆ defined := List.map_subset Entity.name Activation.entities_subset
  have asked : answer = _ := geti_statusNumber named
  rw [Activation.isEnabled_eq here found] at asked
  -- The number asks for the position of the name, the lists have names: they agree since no two
  -- entities of the kind have the same one.
  cases sought : v.find? kind name with
  | none =>
    rw [sought] at asked
    have lacking : name ∉ defined := fun member => by
      rw [Verb.mem_names, sought] at member
      cases member
    rw [asked]
    refine ⟨iff_of_false (fun h => by cases h) fun member => lacking (among member),
      iff_of_false (fun h => by cases h) fun member => lacking member.1,
      iff_of_true ⟨_, rfl⟩ lacking⟩
  | some i =>
    rw [sought] at asked
    have has : name ∈ defined := by
      rw [Verb.mem_names, sought]
      rfl
    have active_iff : name ∈ enabled ↔ i ∈ s.rig.activation.active kind :=
      Activation.mem_names (sound.distinct found kind) sought
    have value : answer = .ok (if i ∈ s.rig.activation.active kind then 1 else 0) := by
      rw [asked]
      exact congrArg Except.ok (if_congr List.contains_iff_mem rfl rfl)
    rw [value, active_iff]
    refine ⟨?_, ?_, iff_of_false (fun ⟨what, h⟩ => by cases h) fun lacking => lacking has⟩
    · split_ifs with active
      · exact iff_of_true rfl active
      · exact iff_of_false (fun h => by cases h) active
    · split_ifs with active
      · exact iff_of_false (fun h => by cases h) fun h => h.2 active
      · exact iff_of_true rfl ⟨has, active⟩

/-- In every session that can be reached the views of each kind agree. Without an active verb
nothing is listed, the status has no names, and the number for a name is zero. With one the active
entities are listed under the names of the status, in order of activation; no name is there twice,
and all of them are listed for the verb. The number for a name is one if it is listed as active,
zero if it is listed for the verb alone, and else there is none. -/
theorem Reachable.views (reached : s.Reachable l b) (kind : Kind) :
    (s.rig.activation.verb = none →
      list l (some kind.activeList) s = .ok [] s ∧ s.status = ⟨none, [], []⟩ ∧
      ∀ name, name ≠ "" → s.geti (kind.statusNumber name) = .ok 0) ∧
    ∀ index, s.rig.activation.verb = some index →
      ∃ v enabled defined, s.card.verb? index = some v ∧ s.status.verb = some v.name ∧
        list l (some kind.activeList) s = .ok enabled s ∧
        list l (some kind.wholeList) s = .ok defined s ∧
        enabled.map Entry.name = s.status.names kind ∧
        (s.status.names kind).map some =
          (s.rig.activation.active kind).map (fun i => (v.entity? kind i).map Entity.name) ∧
        defined.map Entry.name = (v.entities kind).map Entity.name ∧
        (enabled.map Entry.name).Nodup ∧ enabled.map Entry.name ⊆ defined.map Entry.name ∧
        ∀ name, name ≠ "" →
          let answer := s.geti (kind.statusNumber name)
          (answer = .ok 1 ↔ name ∈ enabled.map Entry.name) ∧
          (answer = .ok 0 ↔ name ∈ defined.map Entry.name ∧ name ∉ enabled.map Entry.name) ∧
          ((∃ what, answer = .error (.notFound what)) ↔ name ∉ defined.map Entry.name) := by
  have sound := reached.toSound
  have fits := sound.reached.fits
  refine ⟨fun idle => ?_, fun index here => ?_⟩
  · have inactive : s.rig.activation.activeVerb? s.card = none := by
      rw [Activation.activeVerb?, idle]
      rfl
    refine ⟨?_, ?_, fun name named => ?_⟩
    · rw [list_activeList, activeEntities, inactive]
      rfl
    · rw [status, Activation.status, inactive]
    · rw [geti_statusNumber named, Activation.isEnabled, idle]
      rfl
  · obtain ⟨v, found, active⟩ := fits.activeVerb? here
    have told : s.status.names kind = (s.rig.activation.entities v kind).map Entity.name := by
      rw [status, Activation.status, active]
      cases kind <;> rfl
    have listed : list l (some kind.activeList) s =
        .ok ((s.rig.activation.entities v kind).map entryOf) s := by
      rw [list_activeList, activeEntities, active]
    refine ⟨v, _, _, found, ?_, listed, list_wholeList l active, ?_⟩
    · rw [status, Activation.status, active]
    · rw [map_name_entryOf, map_name_entryOf, told]
      refine ⟨rfl, Activation.map_name_entities fun i => fits.lt_length active, rfl,
        Activation.nodup_names fits active (sound.distinct found kind),
        List.map_subset _ Activation.entities_subset, fun name named => ?_⟩
      exact geti_of_active sound here found named

/-- Halfway through a teardown the microphone is active and the speaker is not, in every view. -/
theorem halfway_views :
    halfway.rig.activation.verb = some 0 ∧ halfway.status.names .device = ["Mic"] ∧
      (∃ enabled, list (serving Sample.card) (some "_enadevs") halfway = .ok enabled halfway ∧
        enabled.map Entry.name = ["Mic"]) ∧
      halfway.geti "_devstatus/Mic" = .ok 1 ∧ halfway.geti "_devstatus/Speaker" ≠ .ok 1 := by
  have here : halfway.rig.activation.verb = some 0 := by rfl
  have names : halfway.status.names .device = ["Mic"] := by rfl
  obtain ⟨v, enabled, defined, -, -, listed, -, named, -, -, -, -, numbers⟩ :=
    (Reachable.views halfway_reachable .device).2 0 here
  have active : enabled.map Entry.name = ["Mic"] := named.trans names
  refine ⟨here, names, ⟨enabled, listed, active⟩, ?_, ?_⟩
  · refine (numbers "Mic" (by decide)).1.mpr ?_
    rw [active]
    exact List.mem_singleton_self _
  · refine fun answered => absurd ((numbers "Speaker" (by decide)).1.mp answered) ?_
    rw [active]
    decide

end Session

end UseCase
