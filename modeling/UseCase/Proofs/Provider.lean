import Mathlib.Data.List.MinMax
import Mathlib.Tactic.Common
import UseCase.Proofs.ExactLookup
import UseCase.Proofs.ListedAnchor
import UseCase.Proofs.Reversal

/-!
# Where an answer comes from

A query for a name alone is answered from one source: an active modifier, an active device, the
active verb, or the defaults of the card (`source?`). Of the active entities of a kind it is the one
that leads the others which have the value, so an entity that becomes active takes over exactly if
it leads them (`Leads`), and a device only if there is no such modifier (`Prevails`).

An entity is added at the end of the active ones, and of equal priorities the earlier one leads.
That is why the new entity has to outrank the others (`select?_concat`), and why nothing changes if
it does not. The main statement is `Activation.Reachable.provider_after_enable`.
-/

namespace UseCase

namespace Lookup

variable {c : Card} {a : Activation} {v : Verb} {kind : Kind} {name : String} {e : Entity} {i : Nat}

/-! ## Sources -/

/-- Where the answer to a query can come from. -/
inductive Source where
  | entity (kind : Kind) (e : Entity)
  | verb
  | defaults
  deriving DecidableEq, Repr

/-- The values that a source has. -/
def Source.values (c : Card) (v : Verb) : Source → ValueMap
  | entity _ e => e.values
  | verb => v.values
  | defaults => c.defaults

/-- The active entity of a kind that is selected for a name, if the name is well known. -/
def activeSource? (a : Activation) (v : Verb) (kind : Kind) (name : String) : Option Source :=
  if isWellKnown name then (Ranking.select? (a.entities v kind) name).map (.entity kind) else none

/-- What provides a name if no active entity does. -/
def lastSource? (c : Card) (v : Verb) (name : String) : Option Source :=
  if v.values.contains name then some .verb
  else if c.defaults.contains name then some .defaults
  else none

/-- What provides a name while a verb is active: a modifier before a device, both before the verb,
and the defaults last. -/
def source? (c : Card) (a : Activation) (v : Verb) (name : String) : Option Source :=
  ((activeSource? a v .modifier name).or (activeSource? a v .device name)).or (lastSource? c v name)

/-- The query for a name without anchor and verb. -/
def alone (name : String) : ValueQuery := ⟨name, none, .unspecified, false⟩

/-- A result is the value that a source has for a name, or without a source the failure to find the
name. -/
def AnsweredFrom (c : Card) (v : Verb) (name : String) (result : Except Fault String) :
    Option Source → Prop
  | some source => ∃ value, (source.values c v).get? name = some value ∧ result = .ok value
  | none => result = .error (.notFound (.value name))

/-- One source gives one answer. -/
lemma AnsweredFrom.unique {result result' : Except Fault String} {source : Option Source}
    (first : AnsweredFrom c v name result source) (second : AnsweredFrom c v name result' source) :
    result = result' := by
  cases source with
  | none => exact first.trans second.symm
  | some s =>
    obtain ⟨value, there, answer⟩ := first
    obtain ⟨value', there', answer'⟩ := second
    rw [there] at there'
    rw [answer, answer', Option.some.inj there']

/-- What was found for a name is the value of a source, if there is one. -/
structure FoundIn (c : Card) (v : Verb) (name : String) (found : Option String)
    (source : Option Source) : Prop where
  value : found = source.bind fun s => (s.values c v).get? name
  has : source.isSome → found.isSome

/-- What is found first is found in the first source. -/
lemma FoundIn.or {found found' : Option String} {source source' : Option Source}
    (first : FoundIn c v name found source) (next : FoundIn c v name found' source') :
    FoundIn c v name (found.or found') (source.or source') := by
  cases source with
  | none =>
    have nothing : found = none := first.value
    rw [nothing, Option.none_or, Option.none_or]
    exact next
  | some s =>
    obtain ⟨value, there⟩ := Option.isSome_iff_exists.mp (first.has rfl)
    rw [there, Option.some_or, Option.some_or, ← there]
    exact first

/-- An entity that is selected is one of those given, and it has the value. -/
lemma mem_of_selected {entities : List Entity} (selected : Ranking.select? entities name = some e) :
    e ∈ entities ∧ e.values.contains name = true := by
  rw [Ranking.select?_eq] at selected
  exact List.mem_filter.mp (List.argmax_mem selected)

/-- The layer of the active entities has the value of the one that is selected. -/
lemma foundIn_active (known : isWellKnown name = true) (kind : Kind) :
    FoundIn c v name ((Layer.entities (a.entities v kind)).value? name)
      (activeSource? a v kind name) := by
  have value : (Layer.entities (a.entities v kind)).value? name =
      (Ranking.select? (a.entities v kind) name).bind fun e => e.values.get? name := by
    rw [Ranking.select?_eq]
    rfl
  rw [activeSource?, if_pos known, value]
  cases selected : Ranking.select? (a.entities v kind) name with
  | none => exact ⟨rfl, fun some => by cases some⟩
  | some e => exact ⟨rfl, fun _ => (mem_of_selected selected).2⟩

/-- Behind the active entities a name is found in the verb, or else in the defaults. -/
lemma foundIn_last :
    FoundIn c v name ((v.values.get? name).or (c.defaults.get? name)) (lastSource? c v name) := by
  rw [lastSource?]
  split_ifs with inVerb inDefaults
  · obtain ⟨value, there⟩ := Option.isSome_iff_exists.mp inVerb
    rw [there, Option.some_or]
    exact ⟨there.symm, fun _ => rfl⟩
  · rw [Option.not_isSome_iff_eq_none.mp inVerb, Option.none_or]
    exact ⟨rfl, fun _ => inDefaults⟩
  · rw [Option.not_isSome_iff_eq_none.mp inVerb, Option.not_isSome_iff_eq_none.mp inDefaults]
    exact ⟨rfl, fun some => by cases some⟩

/-- The layers of a query for a name alone: the active entities, if the name is well known, the verb
and the defaults. -/
def layersAlone (c : Card) (a : Activation) (v : Verb) (name : String) : List Layer :=
  (if isWellKnown name then
    [.entities (a.entities v .modifier), .entities (a.entities v .device)] else []) ++
    [.values v.values, .values c.defaults]

/-- A query for a name alone goes through these layers. -/
lemma layers_alone (active : a.activeVerb? c = some v) (name : String) :
    layers c a (alone name) = .ok (layersAlone c a v name) := by
  have meant : subject c a (alone name).verb = .ok (some v) := congrArg Except.ok active
  have mine (kind : Kind) : activeOf c a v kind = a.entities v kind := if_pos active
  rw [layers, meant, ok_bind, layersOf, layersAlone]
  simp only [alone, mine]
  split_ifs <;> rfl

/-- What the layers of a query for a name alone have for the name is found in its source. -/
lemma foundIn_layersAlone (a : Activation) (name : String) :
    FoundIn c v name ((layersAlone c a v name).findSome? (Layer.value? name))
      (source? c a v name) := by
  rw [source?, layersAlone]
  cases known : isWellKnown name with
  | true =>
    rw [if_pos rfl, List.cons_append, List.cons_append, List.nil_append, findSome?_layers,
      findSome?_layers, ← Option.or_assoc, ← fromVerb_eq ⟨0, v⟩]
    exact ((foundIn_active known .modifier).or (foundIn_active known .device)).or foundIn_last
  | false =>
    have nothing (kind : Kind) : activeSource? a v kind name = none := by
      rw [activeSource?, known]
      rfl
    rw [if_neg Bool.false_ne_true, List.nil_append, ← fromVerb_eq ⟨0, v⟩, nothing, nothing,
      Option.none_or, Option.none_or]
    exact foundIn_last

/-- While a verb is active, a query for a name alone is answered from its source. -/
lemma answered_alone (valid : c.Valid) (active : a.activeVerb? c = some v) (name : String) :
    AnsweredFrom c v name (resolve c a (alone name)) (source? c a v name) := by
  have answer : resolve c a (alone name) = reference c a (alone name) :=
    resolve_eq valid a (fun anchored => absurd rfl anchored) rfl
  have found := foundIn_layersAlone (c := c) (v := v) a name
  rw [answer, reference, layers_alone active]
  simp only [alone]
  cases source : source? c a v name with
  | none =>
    rw [source] at found
    rw [found.value]
    rfl
  | some s =>
    rw [source] at found
    obtain ⟨text, there⟩ := Option.isSome_iff_exists.mp (found.has rfl)
    rw [there]
    exact ⟨text, found.value.symm.trans there, rfl⟩

/-! ## Becoming active -/

/-- An entity has a value and outranks all others that have it. -/
def Leads (entities : List Entity) (e : Entity) (name : String) : Prop :=
  e.values.contains name = true ∧
    ∀ e' ∈ entities, e'.values.contains name = true → e'.priority < e.priority

/-- An entity leads the active ones of its kind, and if it is a device no active modifier has the
value. -/
def Prevails (a : Activation) (v : Verb) (kind : Kind) (e : Entity) (name : String) : Prop :=
  Leads (a.entities v kind) e name ∧
    (kind = .device → ∀ m ∈ a.entities v .modifier, m.values.contains name = false)

/-- An entity that comes last is selected if it leads the others. -/
lemma select?_concat {entities : List Entity} (leads : Leads entities e name) :
    Ranking.select? (entities ++ [e]) name = some e := by
  have last : [e].filter (fun e => e.values.contains name) = [e] :=
    List.filter_cons_of_pos leads.1
  rw [Ranking.select?_eq, List.filter_append, last, List.argmax_concat]
  cases best : (entities.filter fun e => e.values.contains name).argmax Entity.priority with
  | none => rfl
  | some m =>
    obtain ⟨member, has⟩ := List.mem_filter.mp (List.argmax_mem best)
    exact if_pos (leads.2 m member has)

/-- An entity that comes last changes no selection if it does not lead the others. -/
lemma select?_concat_of_not {entities : List Entity} (behind : ¬ Leads entities e name) :
    Ranking.select? (entities ++ [e]) name = Ranking.select? entities name := by
  rw [Ranking.select?_eq, Ranking.select?_eq, List.filter_append]
  cases has : e.values.contains name with
  | false =>
    have last : [e].filter (fun e => e.values.contains name) = [] :=
      List.filter_cons_of_neg (by rw [has]; exact Bool.false_ne_true)
    rw [last, List.append_nil]
  | true =>
    -- Another one that has the value is as high, and it comes earlier.
    have rival : ∃ e' ∈ entities, e'.values.contains name = true ∧ e.priority ≤ e'.priority := by
      by_contra none
      refine behind ⟨has, fun e' member has' => Nat.lt_of_not_le fun high => ?_⟩
      exact none ⟨e', member, has', high⟩
    obtain ⟨e', member, has', high⟩ := rival
    have among : e' ∈ entities.filter fun e => e.values.contains name :=
      List.mem_filter.mpr ⟨member, has'⟩
    have last : [e].filter (fun e => e.values.contains name) = [e] := List.filter_cons_of_pos has
    rw [last, List.argmax_concat]
    cases best : (entities.filter fun e => e.values.contains name).argmax Entity.priority with
    | none =>
      rw [List.argmax_eq_none.mp best] at among
      cases among
    | some m =>
      have higher : e'.priority ≤ m.priority := List.le_of_mem_argmax among best
      exact if_neg (Nat.not_lt.mpr (high.trans higher))

/-- An entity that is added is the last one of its kind. -/
lemma entities_add (there : v.entity? kind i = some e) :
    (a.add kind i).entities v kind = a.entities v kind ++ [e] := by
  rw [Activation.entities, Activation.add, Activation.active_setActive_self, List.filterMap_append,
    List.filterMap_cons_some there, List.filterMap_nil, Activation.entities]

/-- Adding an entity leaves those of the other kind alone. -/
lemma entities_add_of_ne {other : Kind} (differs : other ≠ kind) :
    (a.add kind i).entities v other = a.entities v other := by
  rw [Activation.entities, Activation.add, Activation.active_setActive_of_ne differs,
    Activation.entities]

/-- An active entity is the source of a name exactly if the name is well known and the entity is
selected. -/
lemma activeSource?_eq_some {k k' : Kind} :
    activeSource? a v k name = some (.entity k' e) ↔
      k = k' ∧ isWellKnown name = true ∧ Ranking.select? (a.entities v k) name = some e := by
  rw [activeSource?]
  cases known : isWellKnown name with
  | false => exact iff_of_false (fun h => by cases h) fun h => by cases h.2.1
  | true =>
    rw [if_pos rfl, Option.map_eq_some_iff]
    constructor
    · rintro ⟨e', selected, same⟩
      cases same
      exact ⟨rfl, rfl, selected⟩
    · rintro ⟨rfl, -, selected⟩
      exact ⟨e, selected, rfl⟩

/-- The sources behind the active entities are no entities. -/
lemma lastSource?_ne : lastSource? c v name ≠ some (.entity kind e) := by
  rw [lastSource?]
  split_ifs <;> exact fun same => by cases same

/-- An entity is the source of an answer only if it is active. -/
lemma mem_of_source? (provided : source? c a v name = some (.entity kind e)) :
    e ∈ a.entities v kind := by
  have active (k : Kind) (here : activeSource? a v k name = some (.entity kind e)) :
      e ∈ a.entities v kind := by
    obtain ⟨rfl, -, selected⟩ := activeSource?_eq_some.mp here
    exact (mem_of_selected selected).1
  rcases Option.or_eq_some_iff.mp provided with first | ⟨-, last⟩
  · rcases Option.or_eq_some_iff.mp first with modifier | ⟨-, device⟩
    · exact active .modifier modifier
    · exact active .device device
  · exact absurd last lastSource?_ne

/-- No entity of a kind is the source of a well-known name exactly if no active one has a value. -/
lemma activeSource?_eq_none (known : isWellKnown name = true) :
    activeSource? a v kind name = none ↔
      ∀ m ∈ a.entities v kind, m.values.contains name = false := by
  rw [activeSource?, if_pos known, Option.map_eq_none_iff, Ranking.select?_eq, List.argmax_eq_none,
    List.filter_eq_nil_iff]
  exact forall₂_congr fun m _ => Bool.eq_false_iff.symm

/-- An entity that becomes active leaves the sources of the other kind alone. -/
lemma activeSource?_add_of_ne {other : Kind} (differs : other ≠ kind) :
    activeSource? (a.add kind i) v other name = activeSource? a v other name := by
  rw [activeSource?, activeSource?, entities_add_of_ne differs]

/-- An entity that becomes active is the source of a well-known name if it prevails. -/
lemma source?_add (known : isWellKnown name = true) (there : v.entity? kind i = some e)
    (prevails : Prevails a v kind e name) :
    source? c (a.add kind i) v name = some (.entity kind e) := by
  obtain ⟨leads, modifierless⟩ := prevails
  have mine : activeSource? (a.add kind i) v kind name = some (.entity kind e) := by
    rw [activeSource?, if_pos known, entities_add there, select?_concat leads]
    rfl
  rw [source?]
  cases kind with
  | modifier => rw [mine, Option.some_or, Option.some_or]
  | device =>
    have nobody : activeSource? (a.add .device i) v .modifier name = none :=
      (activeSource?_add_of_ne (by decide)).trans
        ((activeSource?_eq_none known).mpr (modifierless rfl))
    rw [nobody, mine, Option.none_or, Option.some_or]

/-- An entity that becomes active and does not prevail changes no source. -/
lemma source?_add_of_not (there : v.entity? kind i = some e)
    (behind : isWellKnown name = true → ¬ Prevails a v kind e name) :
    source? c (a.add kind i) v name = source? c a v name := by
  cases known : isWellKnown name with
  | false =>
    have nothing (a : Activation) (k : Kind) : activeSource? a v k name = none := by
      rw [activeSource?, known]
      rfl
    rw [source?, source?, nothing, nothing, nothing, nothing]
  | true =>
    by_cases leads : Leads (a.entities v kind) e name
    · -- It leads its own kind, so it is a device, and a modifier comes before it.
      have device : kind = .device := by
        by_contra other
        exact behind known ⟨leads, fun device => absurd device other⟩
      subst device
      have before : activeSource? a v .modifier name ≠ none := fun nobody =>
        behind known ⟨leads, fun _ => (activeSource?_eq_none known).mp nobody⟩
      obtain ⟨first, found⟩ := Option.ne_none_iff_exists'.mp before
      rw [source?, source?, activeSource?_add_of_ne (by decide), found]
      simp only [Option.some_or]
    · have same : activeSource? (a.add kind i) v kind name = activeSource? a v kind name := by
        rw [activeSource?, activeSource?, entities_add there, select?_concat_of_not leads]
      rw [source?, source?]
      cases kind with
      | modifier => rw [same, activeSource?_add_of_ne (by decide)]
      | device => rw [same, activeSource?_add_of_ne (by decide)]

/-- An entity that becomes active is the source of a well-known name exactly if it prevails. -/
lemma source?_add_iff (known : isWellKnown name = true) (there : v.entity? kind i = some e)
    (off : e ∉ a.entities v kind) :
    source? c (a.add kind i) v name = some (.entity kind e) ↔ Prevails a v kind e name := by
  constructor
  · intro taken
    by_contra behind
    rw [source?_add_of_not there fun _ => behind] at taken
    exact off (mem_of_source? taken)
  · exact source?_add known there

end Lookup

namespace Activation

open Rig Lookup

variable {σ : Type} {c : Card} {a : Activation} {v : Verb} {kind : Kind} {e : Entity}

/-- What enabling an entity that is not active makes of the answer to a query for a name alone, on
any control surface. Before and after, the answer is the value of its source. For a well-known name
the entity is the source afterwards exactly if it prevails over what was active before, and else the
source and the answer are the same as before; for any other name they always are. Disabling the
entity at once gives the old answer back. -/
theorem Reachable.provider_after_enable (valid : c.validate = .ok ()) (reached : a.Reachable c)
    (active : a.activeVerb? c = some v) (member : e ∈ v.entities kind)
    (off : e ∉ a.entities v kind) (b : Backend σ) (surface : σ) {rig : Rig σ}
    (done : perform b c (.command (.enable kind e.name)) ⟨a, surface⟩ = .ok () rig)
    (name : String) :
    let a' := rig.activation
    let before := source? c a v name
    let after := source? c a' v name
    AnsweredFrom c v name (resolve c a (alone name)) before ∧
    AnsweredFrom c v name (resolve c a' (alone name)) after ∧
    (isWellKnown name = true → (after = some (.entity kind e) ↔ Prevails a v kind e name)) ∧
    (isWellKnown name = false ∨ after ≠ some (.entity kind e) →
      after = before ∧ resolve c a' (alone name) = resolve c a (alone name)) ∧
    ∀ {τ : Type} (b' : Backend τ) (surface' : τ) (rig' : Rig τ),
      perform b' c (.command (.disable kind e.name)) ⟨a', surface'⟩ = .ok () rig' →
        resolve c rig'.activation (alone name) = resolve c a (alone name) := by
  intro a' before after
  let start : Rig σ := ⟨a, surface⟩
  have valid := Card.validate_iff.mp valid
  have fits : start.activation.Fits c := reached.fits
  have sound : v.Valid := valid.verbs v (mem_of_activeVerb? active)
  -- Names are unique in a valid card, so the entity is the one that its name finds.
  obtain ⟨i, found, there⟩ := Verb.find?_of_mem (sound.distinct kind) member
  have absent : i ∉ a.active kind := fun on => off (List.mem_filterMap.mpr ⟨i, on, there⟩)
  have added : a' = a.add kind i := activation_enable fits active found absent done
  have active' : a'.activeVerb? c = some v := by
    rw [added, ← active]
    exact activeVerb?_setActive
  have answer : AnsweredFrom c v name (resolve c a (alone name)) before :=
    answered_alone valid active name
  have answer' : AnsweredFrom c v name (resolve c a' (alone name)) after :=
    answered_alone valid active' name
  have moved : after = source? c (a.add kind i) v name :=
    congrArg (fun a => source? c a v name) added
  have takes (known : isWellKnown name = true) :
      after = some (.entity kind e) ↔ Prevails a v kind e name := by
    rw [moved]
    exact source?_add_iff known there off
  refine ⟨answer, answer', takes, fun unmoved => ?_, fun b' surface' rig' done' => ?_⟩
  · have unchanged : after = before := by
      refine moved.trans (source?_add_of_not there fun known prevails => ?_)
      rcases unmoved with unknown | other
      · rw [known] at unknown
        cases unknown
      · exact other ((takes known).mpr prevails)
    exact ⟨unchanged, answer'.unique (unchanged ▸ answer)⟩
  · let between : Rig _ := ⟨a', surface'⟩
    have kept : rig.activation.Fits c := fits_of_ok fits done
    have fits' : between.activation.Fits c := kept
    rw [activation_disable_added fits' active found absent added done']

/-- While the display of lower priority is active, the other one takes the playback address over,
and gives it back when it is disabled; it has no say in an address for capturing. -/
theorem display_takes_over :
    let a : Activation := ⟨some 0, [0], [], true⟩
    let e := display "HDMI2" 10 "hw:0,7"
    let rig := after (perform Recorder.backend displays (.command (.enable .device "HDMI2"))
      ⟨a, .fresh⟩)
    let rig' := after (perform Recorder.backend displays (.command (.disable .device "HDMI2")) rig)
    a.Reachable displays ∧ resolve displays a (alone "PlaybackPCM") = .ok "hw:0,3" ∧
      ∃ v, source? displays rig.activation v "PlaybackPCM" = some (.entity .device e) ∧
        resolve displays rig.activation (alone "PlaybackPCM") = .ok "hw:0,7" ∧
        resolve displays rig'.activation (alone "PlaybackPCM") = .ok "hw:0,3" ∧
        resolve displays rig.activation (alone "CapturePCM") =
          resolve displays a (alone "CapturePCM") := by
  intro a e rig rig'
  have reached : a.Reachable displays :=
    displays_reachable.led Recorder.backend (.command (.enable .device "HDMI1")) .fresh (by decide)
  have valid : displays.validate = .ok () := by rfl
  have first : resolve displays a (alone "PlaybackPCM") = .ok "hw:0,3" := by rfl
  obtain ⟨v, active⟩ : ∃ v, a.activeVerb? displays = some v := ⟨_, rfl⟩
  have member : e ∈ v.entities .device := by
    cases active
    decide
  have off : e ∉ a.entities v .device := by
    cases active
    decide
  have done : perform Recorder.backend displays (.command (.enable .device e.name)) ⟨a, .fresh⟩ =
      .ok () rig := eq_ok_of_answer (by decide)
  have done' : perform Recorder.backend displays (.command (.disable .device e.name)) rig =
      .ok () rig' := eq_ok_of_answer (by decide)
  have prevails : Prevails a v .device e "PlaybackPCM" := by
    cases active
    exact ⟨⟨by decide, by decide⟩, fun _ => by decide⟩
  obtain ⟨-, answer, takes, -, back⟩ := reached.provider_after_enable valid active member
    off Recorder.backend .fresh done "PlaybackPCM"
  obtain ⟨-, -, -, stays, -⟩ := reached.provider_after_enable valid active member
    off Recorder.backend .fresh done "CapturePCM"
  have taken := (takes (by decide)).mpr prevails
  rw [taken] at answer
  obtain ⟨value, has, answered⟩ := answer
  cases has
  refine ⟨reached, first, v, taken, answered, ?_, ?_⟩
  · exact (back Recorder.backend rig.surface rig' done').trans first
  · refine (stays (.inr ?_)).2
    cases active
    decide

end Activation

end UseCase
