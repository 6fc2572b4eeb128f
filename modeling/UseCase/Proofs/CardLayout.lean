import Mathlib.Data.List.Forall2
import Mathlib.Tactic.Common
import UseCase.CardFile.Layout
import UseCase.Proofs.Card
import UseCase.Proofs.Outcome
import UseCase.Proofs.Register
import UseCase.Proofs.ValueMap

/-!
# Layouts and the cards that they describe

A layout is accepted for what it contains (`CardLayout.Accepted`): names, constraints and
priorities, no matter in which order they are checked. What it describes is a card that has all of
it in the same order (`CardLayout.Describes`). For every part of a layout the two meet in
`valid_iff`: what it describes is valid exactly if it is accepted.

The main statement `CardLayout.toCard_eq_ok_iff` says that the card of a layout is the one that it
describes, and that there is one exactly if the layout is accepted.
-/

namespace UseCase

variable {kind : Kind} {verb name : String} {p : Nat} {p? : Option Nat} {f : Fault}

/-! ## Parts in order -/

section

variable {ε α β γ : Type} {xs : List α} {ys : List β} {R : α → β → Prop}

/-- Parts that are built one after the other are built in their order. -/
lemma mapM_eq_ok_iff {build : α → Except ε β} (built : ∀ x y, build x = .ok y ↔ R x y) :
    xs.mapM build = .ok ys ↔ List.Forall₂ R xs ys := by
  induction xs generalizing ys with
  | nil =>
    rw [List.mapM_nil, List.forall₂_nil_left_iff]
    exact ⟨fun same => (Except.ok.inj same).symm, fun same => congrArg Except.ok same.symm⟩
  | cons x rest ih =>
    rw [List.mapM_cons, bind_eq_ok, List.forall₂_cons_left_iff]
    constructor
    · rintro ⟨y, first, others⟩
      obtain ⟨ys', others, same⟩ := bind_eq_ok.mp others
      exact ⟨y, ys', (built x y).mp first, ih.mp others, (Except.ok.inj same).symm⟩
    · rintro ⟨y, ys', first, others, rfl⟩
      exact ⟨y, (built x y).mpr first, bind_eq_ok.mpr ⟨ys', ih.mpr others, rfl⟩⟩

/-- Building fails only with the failure of a part. -/
lemma exists_of_mapM_eq_error {build : α → Except ε β} {failure : ε}
    (failed : xs.mapM build = .error failure) : ∃ x ∈ xs, build x = .error failure := by
  induction xs with
  | nil => cases failed
  | cons x rest ih =>
    rw [List.mapM_cons, bind_eq_error] at failed
    rcases failed with first | ⟨y, -, failed⟩
    · exact ⟨x, List.mem_cons_self, first⟩
    · rcases bind_eq_error.mp failed with others | ⟨ys', -, failed⟩
      · obtain ⟨x', member, failed⟩ := ih others
        exact ⟨x', List.mem_cons_of_mem x member, failed⟩
      · cases failed

/-- If every element has a partner, the list has one too. -/
lemma exists_forall₂ (each : ∀ x ∈ xs, ∃ y, R x y) : ∃ ys, List.Forall₂ R xs ys := by
  induction xs with
  | nil => exact ⟨[], .nil⟩
  | cons x rest ih =>
    obtain ⟨first, others⟩ := List.forall_mem_cons.mp each
    obtain ⟨y, first⟩ := first
    obtain ⟨ys', others⟩ := ih others
    exact ⟨y :: ys', .cons first others⟩

/-- Elements that agree in pairs have a property all or not all together. -/
lemma forall_mem_iff_of_forall₂ {P : α → Prop} {Q : β → Prop}
    (agree : ∀ x y, R x y → (Q y ↔ P x)) (related : List.Forall₂ R xs ys) :
    (∀ y ∈ ys, Q y) ↔ ∀ x ∈ xs, P x := by
  induction related with
  | nil => exact iff_of_true (List.forall_mem_nil Q) (List.forall_mem_nil P)
  | cons first _ ih => rw [List.forall_mem_cons, List.forall_mem_cons, agree _ _ first, ih]

/-- Related lists give the same list where related elements give the same value. -/
lemma map_eq_of_forall₂ {g : α → γ} {h : β → γ} (agree : ∀ x y, R x y → h y = g x)
    (related : List.Forall₂ R xs ys) : ys.map h = xs.map g := by
  induction related with
  | nil => rfl
  | cons first _ ih => rw [List.map_cons, List.map_cons, agree _ _ first, ih]

end

/-! ## Values -/

/-- The map has the texts of the values under the same names, in increasing order. -/
structure Renders (values : Register Scalar) (m : ValueMap) : Prop where
  entries : m.entries = values.entries.map fun (name, value) => (name, value.toText)
  increasing : m.names.Pairwise fun earlier later => Text.before earlier later = true

/-- The value map has the names of the table in their order, each with the text of its scalar. -/
lemma entries_valueMap (values : Register Scalar) :
    (valueMap values).entries = values.entries.map fun (name, value) => (name, value.toText) := by
  refine ValueMap.entries_ofList ?_
  exact (values.map Scalar.toText).names_nodup

/-- The map of some values is the one that has their texts. -/
lemma renders_iff {values : Register Scalar} {m : ValueMap} :
    Renders values m ↔ m = valueMap values := by
  constructor
  · intro renders
    exact congrArg ValueMap.mk (renders.entries.trans (entries_valueMap values).symm)
  · rintro rfl
    refine ⟨entries_valueMap values, ?_⟩
    rw [ValueMap.names, entries_valueMap]
    exact (values.map Scalar.toText).names_increasing

/-- A name has the text of its scalar as its value. -/
lemma get?_valueMap (values : Register Scalar) (name : String) :
    (valueMap values).get? name = (values.get? name).map Scalar.toText := by
  rw [ValueMap.get?, entries_valueMap, List.find?_map, Register.get?, Option.map_map,
    Option.map_map]
  rfl

/-! ## Constraints -/

/-- The constraint of an entity that lists these supported and these conflicting devices. -/
inductive Constraint.Listed : List String → List String → Constraint → Prop
  | neither : Listed [] [] .any
  | supported {devices : List String} (some : devices ≠ []) : Listed devices [] (.supported devices)
  | conflicting {devices : List String} (some : devices ≠ []) :
    Listed [] devices (.conflicting devices)

namespace Constraint

variable {owner : String} {supported conflicting : List String} {constraint : Constraint}

/-- A constraint is built from the two lists exactly as they say. -/
lemma ofLists_eq_ok_iff :
    ofLists owner supported conflicting = .ok constraint ↔
      Listed supported conflicting constraint := by
  constructor
  · intro built
    cases supported with
    | nil =>
      cases conflicting with
      | nil =>
        cases built
        exact .neither
      | cons device others =>
        cases built
        exact .conflicting (List.cons_ne_nil device others)
    | cons device others =>
      cases conflicting with
      | nil =>
        cases built
        exact .supported (List.cons_ne_nil device others)
      | cons => cases built
  · intro listed
    cases listed with
    | neither => rfl
    | supported some =>
      obtain ⟨device, others, rfl⟩ := List.exists_cons_of_ne_nil some
      rfl
    | conflicting some =>
      obtain ⟨device, others, rfl⟩ := List.exists_cons_of_ne_nil some
      rfl

/-- Not both sorts of devices may be listed. -/
lemma exists_listed_iff :
    (∃ constraint, Listed supported conflicting constraint) ↔
      supported = [] ∨ conflicting = [] := by
  constructor
  · rintro ⟨constraint, listed⟩
    cases listed with
    | neither => exact .inl rfl
    | supported => exact .inr rfl
    | conflicting => exact .inl rfl
  · rintro (rfl | rfl)
    · cases conflicting with
      | nil => exact ⟨.any, .neither⟩
      | cons device others => exact ⟨_, .conflicting (List.cons_ne_nil device others)⟩
    · cases supported with
      | nil => exact ⟨.any, .neither⟩
      | cons device others => exact ⟨_, .supported (List.cons_ne_nil device others)⟩

/-- Lists that make no constraint are a defect of the description. -/
lemma configuration_of_ofLists (failed : ofLists owner supported conflicting = .error f) :
    ∃ defect, f = .configuration defect := by
  unfold ofLists at failed
  split at failed <;> cases failed
  exact ⟨_, rfl⟩

end Constraint

/-! ## Entities -/

namespace EntityLayout

variable {l : EntityLayout} {e : Entity}

/-- The entity has a value of this name that writes a 32-bit number, perhaps between blanks. -/
def Gives (l : EntityLayout) (name : String) (p : Nat) : Prop :=
  ∃ value, l.values.get? name = some value ∧
    Text.natural? (Text.wordCount 32) (Text.trim value.toText.toList) = some p

/-- The first of some names whose value writes a number gives the priority, if there is one. -/
inductive Derives (l : EntityLayout) : List String → Option Nat → Prop
  | none : Derives l [] none
  | here {name : String} {rest : List String} {p : Nat} (gives : l.Gives name p) :
    Derives l (name :: rest) (some p)
  | later {name : String} {rest : List String} {p? : Option Nat} (lacks : ∀ p, ¬ l.Gives name p)
    (derives : Derives l rest p?) : Derives l (name :: rest) p?

/-- The priority of an entity: the one that it gives, or else what its values give, or else one. -/
inductive HasPriority (l : EntityLayout) : Nat → Prop
  | given {p : Nat} (given : l.priority = some p) : HasPriority l p
  | derived {p? : Option Nat} (left : l.priority = none)
    (derives : l.Derives ["Priority", "PlaybackPriority", "CapturePriority"] p?) :
    HasPriority l (p?.getD 1)

/-- A name gives a priority if its value is the text of one. -/
lemma priorityOf?_eq_some_iff : priorityOf? (valueMap l.values) name = some p ↔ l.Gives name p := by
  rw [priorityOf?, get?_valueMap, Option.bind_map, Option.bind_eq_some_iff]
  rfl

/-- The priority that names derive is the one of the first of them that gives any. -/
lemma derives_iff {names : List String} :
    l.Derives names p? ↔ names.findSome? (priorityOf? (valueMap l.values)) = p? := by
  induction names with
  | nil =>
    constructor
    · intro derives
      cases derives
      rfl
    · rintro rfl
      exact .none
  | cons name rest ih =>
    rw [List.findSome?_cons]
    cases found : priorityOf? (valueMap l.values) name with
    | some p =>
      have gives := priorityOf?_eq_some_iff.mp found
      constructor
      · intro derives
        cases derives with
        | here gives' => exact found.symm.trans (priorityOf?_eq_some_iff.mpr gives')
        | later lacks => exact absurd gives (lacks p)
      · rintro rfl
        exact .here gives
    | none =>
      have lacks (p : Nat) : ¬ l.Gives name p := fun gives => by
        rw [priorityOf?_eq_some_iff.mpr gives] at found
        cases found
      rw [← ih]
      constructor
      · intro derives
        cases derives with
        | here gives => exact absurd gives (lacks _)
        | later _ derives => exact derives
      · exact .later lacks

/-- The priority of a component is what it says or derives. -/
lemma hasPriority_iff : l.HasPriority p ↔ p = l.effectivePriority := by
  rw [effectivePriority]
  cases given : l.priority with
  | some q =>
    constructor
    · intro has
      cases has with
      | given given' => exact (Option.some.inj (given.symm.trans given')).symm
      | derived left => rw [left] at given; cases given
    · rintro rfl
      exact .given given
  | none =>
    constructor
    · intro has
      cases has with
      | given given' => rw [given'] at given; cases given
      | derived _ derives => rw [← derives_iff.mp derives]; rfl
    · rintro rfl
      exact .derived given (derives_iff.mpr rfl)

/-- The entity has a name, lists devices of one sort at most, and its priority lies in the allowed
range. -/
structure Accepted (l : EntityLayout) : Prop where
  named : l.name ≠ ""
  consistent : l.supported = [] ∨ l.conflicting = []
  ranked : ∃ p, l.HasPriority p ∧ 1 ≤ p ∧ p ≤ 10000

/-- The entity of a kind that is described. -/
structure Describes (kind : Kind) (l : EntityLayout) (e : Entity) : Prop where
  kind : e.kind = kind
  name : e.name = l.name
  comment : e.comment = l.comment
  values : Renders l.values e.values
  enable : e.enable = l.enable
  disable : e.disable = l.disable
  transitions : e.transitions = l.transitions.entries
  priority : l.HasPriority e.priority
  constraint : Constraint.Listed l.supported l.conflicting e.constraint

/-- The entity that is built is the one that is described. -/
lemma toEntity_eq_ok_iff : l.toEntity kind verb = .ok e ↔ Describes kind l e := by
  rw [toEntity, bind_eq_ok]
  constructor
  · rintro ⟨constraint, listed, built⟩
    cases built
    exact ⟨rfl, rfl, rfl, renders_iff.mpr rfl, rfl, rfl, rfl, hasPriority_iff.mpr rfl,
      Constraint.ofLists_eq_ok_iff.mp listed⟩
  · intro describes
    refine ⟨e.constraint, Constraint.ofLists_eq_ok_iff.mpr describes.constraint, ?_⟩
    rw [← describes.name, ← describes.comment, ← renders_iff.mp describes.values,
      ← describes.enable, ← describes.disable, ← describes.transitions,
      ← hasPriority_iff.mp describes.priority, ← describes.kind]
    rfl

/-- A component that is not accepted has a defect. -/
lemma configuration_of_toEntity (failed : l.toEntity kind verb = .error f) :
    ∃ defect, f = .configuration defect := by
  rw [toEntity, bind_eq_error] at failed
  rcases failed with failed | ⟨constraint, -, failed⟩
  · exact Constraint.configuration_of_ofLists failed
  · cases failed

/-- What an entity describes is valid exactly if the entity is accepted. -/
lemma Describes.valid_iff (describes : Describes kind l e) : e.Valid ↔ l.Accepted := by
  constructor
  · intro valid
    refine ⟨describes.name ▸ valid.named, ?_, e.priority, describes.priority, valid.ranked⟩
    exact Constraint.exists_listed_iff.mp ⟨e.constraint, describes.constraint⟩
  · intro accepted
    obtain ⟨p, has, ranked⟩ := accepted.ranked
    have same : p = e.priority :=
      (hasPriority_iff.mp has).trans (hasPriority_iff.mp describes.priority).symm
    exact ⟨describes.name.symm ▸ accepted.named, same ▸ ranked⟩

/-- An accepted entity describes one. -/
lemma Accepted.exists_describes (accepted : l.Accepted) (kind : Kind) :
    ∃ e, Describes kind l e := by
  obtain ⟨constraint, listed⟩ := Constraint.exists_listed_iff.mpr accepted.consistent
  have built : l.toEntity kind "" = .ok _ := bind_eq_ok.mpr
    ⟨constraint, Constraint.ofLists_eq_ok_iff.mpr listed, rfl⟩
  exact ⟨_, toEntity_eq_ok_iff.mp built⟩

end EntityLayout

/-! ## Verbs -/

namespace VerbLayout

variable {l : VerbLayout} {v : Verb}

/-- The entities of a kind. -/
def entities (l : VerbLayout) : Kind → List EntityLayout
  | .device => l.devices
  | .modifier => l.modifiers

/-- The verb has a name, and its entities of each kind are accepted and go by different names. -/
structure Accepted (l : VerbLayout) : Prop where
  named : l.name ≠ ""
  entities : ∀ kind, ∀ e ∈ l.entities kind, e.Accepted
  distinct : ∀ kind, ((l.entities kind).map EntityLayout.name).Nodup

/-- The verb that is described, with the entities of each kind in their order. -/
structure Describes (l : VerbLayout) (v : Verb) : Prop where
  name : v.name = l.name
  comment : v.comment = l.comment
  values : Renders l.values v.values
  enable : v.enable = l.enable
  disable : v.disable = l.disable
  entities : ∀ kind,
    List.Forall₂ (EntityLayout.Describes kind) (l.entities kind) (v.entities kind)

/-- The verb that is built is the one that is described. -/
lemma toVerb_eq_ok_iff : l.toVerb = .ok v ↔ l.Describes v := by
  have all (kind : Kind) {es : List Entity} :
      (l.entities kind).mapM (fun e => e.toEntity kind l.name) = .ok es ↔
        List.Forall₂ (EntityLayout.Describes kind) (l.entities kind) es :=
    mapM_eq_ok_iff fun _ _ => EntityLayout.toEntity_eq_ok_iff
  rw [toVerb, bind_eq_ok]
  constructor
  · rintro ⟨devices, forDevices, built⟩
    obtain ⟨modifiers, forModifiers, built⟩ := bind_eq_ok.mp built
    cases built
    refine ⟨rfl, rfl, renders_iff.mpr rfl, rfl, rfl, fun kind => ?_⟩
    cases kind with
    | device => exact (all .device).mp forDevices
    | modifier => exact (all .modifier).mp forModifiers
  · intro describes
    refine ⟨v.devices, (all .device).mpr (describes.entities .device), bind_eq_ok.mpr
      ⟨v.modifiers, (all .modifier).mpr (describes.entities .modifier), ?_⟩⟩
    rw [← describes.name, ← describes.comment, ← renders_iff.mp describes.values,
      ← describes.enable, ← describes.disable]
    rfl

/-- A verb that is not accepted has a defect. -/
lemma configuration_of_toVerb (failed : l.toVerb = .error f) :
    ∃ defect, f = .configuration defect := by
  have each (kind : Kind)
      (failed : (l.entities kind).mapM (fun e => e.toEntity kind l.name) = .error f) :
      ∃ defect, f = .configuration defect := by
    obtain ⟨e, -, failed⟩ := exists_of_mapM_eq_error failed
    exact EntityLayout.configuration_of_toEntity failed
  rw [toVerb, bind_eq_error] at failed
  rcases failed with failed | ⟨devices, -, failed⟩
  · exact each .device failed
  · rcases bind_eq_error.mp failed with failed | ⟨modifiers, -, failed⟩
    · exact each .modifier failed
    · cases failed

/-- What a verb describes is valid exactly if the verb is accepted. -/
lemma Describes.valid_iff (describes : l.Describes v) : v.Valid ↔ l.Accepted := by
  have valid (kind : Kind) :
      (∀ e ∈ v.entities kind, e.Valid) ↔ ∀ e ∈ l.entities kind, e.Accepted :=
    forall_mem_iff_of_forall₂ (fun _ _ same => same.valid_iff) (describes.entities kind)
  have names (kind : Kind) :
      (v.entities kind).map Entity.name = (l.entities kind).map EntityLayout.name :=
    map_eq_of_forall₂ (fun _ _ same => same.name) (describes.entities kind)
  constructor
  · intro sound
    exact ⟨describes.name ▸ sound.named, fun kind => (valid kind).mp (sound.entities kind),
      fun kind => names kind ▸ sound.distinct kind⟩
  · intro accepted
    exact ⟨describes.name.symm ▸ accepted.named,
      fun kind => (valid kind).mpr (accepted.entities kind),
      fun kind => (names kind).symm ▸ accepted.distinct kind⟩

/-- An accepted verb describes one. -/
lemma Accepted.exists_describes (accepted : l.Accepted) : ∃ v, l.Describes v := by
  have all (kind : Kind) :
      ∃ es, List.Forall₂ (EntityLayout.Describes kind) (l.entities kind) es :=
    exists_forall₂ fun e member => (accepted.entities kind e member).exists_describes kind
  obtain ⟨devices, forDevices⟩ := all .device
  obtain ⟨modifiers, forModifiers⟩ := all .modifier
  refine ⟨⟨l.name, l.comment, valueMap l.values, l.enable, l.disable, devices, modifiers⟩,
    rfl, rfl, renders_iff.mpr rfl, rfl, rfl, fun kind => ?_⟩
  cases kind with
  | device => exact forDevices
  | modifier => exact forModifiers

end VerbLayout

/-! ## Cards -/

namespace CardLayout

variable {l : CardLayout} {c : Card} {fallback : String} {file : Option String}

/-- The card has a name, if only the fallback, and its verbs are accepted and go by different
names. -/
structure Accepted (l : CardLayout) (fallback : String) : Prop where
  named : l.info.name.getD fallback ≠ ""
  verbs : ∀ v ∈ l.verbs, v.Accepted
  distinct : (l.verbs.map VerbLayout.name).Nodup

/-- The card that is described, with the verbs in their order. -/
structure Describes (l : CardLayout) (fallback : String) (file : Option String) (c : Card) :
    Prop where
  info : c.info = l.info.toInfo fallback file
  defaults : Renders l.defaults c.defaults
  fixedBoot : c.fixedBoot = l.fixedBoot
  boot : c.boot = l.boot
  defaultsSequence : c.defaultsSequence = l.defaultsSequence
  verbs : List.Forall₂ VerbLayout.Describes l.verbs c.verbs

/-- What a card describes is valid exactly if the layout is accepted. -/
lemma Describes.valid_iff (describes : l.Describes fallback file c) :
    c.Valid ↔ l.Accepted fallback := by
  have valid : (∀ v ∈ c.verbs, v.Valid) ↔ ∀ v ∈ l.verbs, v.Accepted :=
    forall_mem_iff_of_forall₂ (fun _ _ same => same.valid_iff) describes.verbs
  have names : c.verbs.map Verb.name = l.verbs.map VerbLayout.name :=
    map_eq_of_forall₂ (fun _ _ same => same.name) describes.verbs
  have name : c.info.name = l.info.name.getD fallback := by
    rw [describes.info]
    rfl
  constructor
  · intro sound
    exact ⟨name ▸ sound.named, valid.mp sound.verbs, names ▸ sound.distinct⟩
  · intro accepted
    exact ⟨name.symm ▸ accepted.named, valid.mpr accepted.verbs,
      names.symm ▸ accepted.distinct⟩

/-- What is accepted describes a card. -/
lemma Accepted.exists_describes (accepted : l.Accepted fallback) (file : Option String) :
    ∃ c, l.Describes fallback file c := by
  obtain ⟨verbs, described⟩ := exists_forall₂ fun v member =>
    (accepted.verbs v member).exists_describes
  exact ⟨⟨l.info.toInfo fallback file, valueMap l.defaults, l.fixedBoot, l.boot,
    l.defaultsSequence, verbs⟩, rfl, renders_iff.mpr rfl, rfl, rfl, rfl, described⟩

/-- The card that is built is the one that is described, if that is valid. -/
lemma toCard_eq_ok_iff_valid :
    l.toCard fallback file = .ok c ↔ l.Describes fallback file c ∧ c.Valid := by
  have all {vs : List Verb} :
      l.verbs.mapM VerbLayout.toVerb = .ok vs ↔ List.Forall₂ VerbLayout.Describes l.verbs vs :=
    mapM_eq_ok_iff fun _ _ => VerbLayout.toVerb_eq_ok_iff
  rw [toCard, bind_eq_ok]
  constructor
  · rintro ⟨verbs, described, built⟩
    obtain ⟨⟨⟩, accepted, built⟩ := bind_eq_ok.mp built
    cases built
    exact ⟨⟨rfl, renders_iff.mpr rfl, rfl, rfl, rfl, all.mp described⟩,
      Card.validate_iff.mp accepted⟩
  · rintro ⟨describes, valid⟩
    refine ⟨c.verbs, all.mpr describes.verbs, ?_⟩
    rw [← describes.info, ← renders_iff.mp describes.defaults, ← describes.fixedBoot,
      ← describes.boot, ← describes.defaultsSequence]
    exact bind_eq_ok.mpr ⟨(), Card.validate_iff.mpr valid, rfl⟩

/-- Every entity of a card that is built from a layout is listed under its own kind. -/
theorem filed_of_toCard (built : l.toCard fallback file = .ok c) : c.Filed := by
  have verbs := (toCard_eq_ok_iff_valid.mp built).1.verbs
  have kinds {kind : Kind} {es : List EntityLayout} {entities : List Entity}
      (described : List.Forall₂ (EntityLayout.Describes kind) es entities) :
      ∀ e ∈ entities, e.kind = kind :=
    (forall_mem_iff_of_forall₂ (P := fun _ => True)
      (fun _ _ same => iff_true_intro same.kind) described).mpr fun _ _ => trivial
  refine (forall_mem_iff_of_forall₂ (P := fun _ => True) (fun _ v same => ?_) verbs).mpr
    fun _ _ => trivial
  exact iff_true_intro ⟨kinds (same.entities .device), kinds (same.entities .modifier)⟩

/-- A layout from which no card is built has a defect. -/
lemma configuration_of_toCard (failed : l.toCard fallback file = .error f) :
    ∃ defect, f = .configuration defect := by
  rw [toCard, bind_eq_error] at failed
  rcases failed with failed | ⟨verbs, -, failed⟩
  · obtain ⟨v, -, failed⟩ := exists_of_mapM_eq_error failed
    exact VerbLayout.configuration_of_toVerb failed
  · rcases bind_eq_error.mp failed with failed | ⟨⟨⟩, -, failed⟩
    · exact Card.configuration_of_validate failed
    · cases failed

/-- A layout has a card exactly if it is accepted. This is then the one that it describes: it has
everything in the order of the layout, every entity under its kind, texts for values under
increasing names, the priority and the constraint that the entity gives. A layout that is not
accepted is refused as a defect of the configuration. -/
theorem toCard_eq_ok_iff (l : CardLayout) (fallback : String) (file : Option String) :
    ((∃ c, l.toCard fallback file = .ok c) ↔ l.Accepted fallback) ∧
    (∀ c, l.toCard fallback file = .ok c ↔ l.Accepted fallback ∧ l.Describes fallback file c) ∧
    ∀ f, l.toCard fallback file = .error f → ∃ defect, f = .configuration defect := by
  have built (c : Card) :
      l.toCard fallback file = .ok c ↔ l.Accepted fallback ∧ l.Describes fallback file c := by
    rw [toCard_eq_ok_iff_valid, and_comm]
    exact and_congr_left fun describes => describes.valid_iff
  refine ⟨⟨?_, fun accepted => ?_⟩, built, fun f => configuration_of_toCard⟩
  · rintro ⟨c, accepts⟩
    exact ((built c).mp accepts).1
  · obtain ⟨c, describes⟩ := accepted.exists_describes file
    exact ⟨c, (built c).mpr ⟨accepted, describes⟩⟩

/-- A device that leaves its priority to its values, the first of which is no number. -/
def speaker : EntityLayout where
  name := "Speaker"
  comment := none
  priority := none
  values := .ofList [("CapturePriority", .text "7"), ("Priority", .text "high"),
    ("PlaybackPriority", .text " 200\t")]
  enable := .write "Speaker Switch" "on"
  disable := []
  transitions := .empty
  supported := []
  conflicting := ["Headphones"]

/-- A layout that leaves the name of its card to the fallback. -/
def speakers : CardLayout where
  info := .empty
  defaults := .empty
  fixedBoot := []
  boot := []
  defaultsSequence := []
  verbs := [⟨"HiFi", none, .empty, [], [], [speaker], []⟩]

/-- The layout of a verb with one speaker is accepted. -/
lemma speaker_accepted : speaker.Accepted where
  named := by decide
  consistent := .inl rfl
  ranked := ⟨200, EntityLayout.hasPriority_iff.mpr (by decide), by decide, by decide⟩

/-- With a name for the card the layout is accepted, and the device gets the priority for playback;
without one it is refused. -/
theorem speakers_accepted :
    (∃ c v e, speakers.toCard "TestCard" none = .ok c ∧ c.info.name = "TestCard" ∧
      c.verbs = [v] ∧ v.devices = [e] ∧ e.kind = .device ∧ e.priority = 200 ∧
      e.constraint = .conflicting ["Headphones"]) ∧
    ∃ defect, speakers.toCard "" none = .error (.configuration defect) := by
  constructor
  · have accepted : speakers.Accepted "TestCard" := by
      refine ⟨by decide, ?_, by decide⟩
      intro v member
      obtain rfl := List.mem_singleton.mp member
      refine ⟨by decide, ?_, ?_⟩
      · intro kind
        cases kind with
        | device => exact List.forall_mem_singleton.mpr speaker_accepted
        | modifier => exact List.forall_mem_nil _
      · intro kind
        cases kind <;> decide
    obtain ⟨exists_iff, built_iff, -⟩ := toCard_eq_ok_iff speakers "TestCard" none
    obtain ⟨c, built⟩ := exists_iff.mpr accepted
    obtain ⟨-, describes⟩ := (built_iff c).mp built
    obtain ⟨v, others, verb, none, verbs⟩ := List.forall₂_cons_left_iff.mp describes.verbs
    cases none
    obtain ⟨e, others, device, none, devices⟩ :=
      List.forall₂_cons_left_iff.mp (verb.entities .device)
    cases none
    have constraint : Constraint.ofLists "" [] ["Headphones"] = .ok e.constraint :=
      Constraint.ofLists_eq_ok_iff.mpr device.constraint
    refine ⟨c, v, e, built, ?_, verbs, devices, device.kind, ?_, (Except.ok.inj constraint).symm⟩
    · rw [describes.info]
      rfl
    · exact (EntityLayout.hasPriority_iff.mp device.priority).trans (by decide)
  · obtain ⟨exists_iff, -, refused⟩ := toCard_eq_ok_iff speakers "" none
    cases outcome : speakers.toCard "" none with
    | ok c => exact absurd rfl (exists_iff.mp ⟨c, outcome⟩).named
    | error f =>
      obtain ⟨defect, rfl⟩ := refused f outcome
      exact ⟨defect, rfl⟩

end CardLayout

end UseCase
