import Mathlib.Tactic.Common
import UseCase.Proofs.ListedAnchor
import UseCase.Proofs.Session

/-!
# Naming the active verb

A verb is reached in two ways: by its name, as the first one of that name, and as the active one, by
its position. In a valid card both lead to the same verb (`target_named_active`). Lookups read the
verb of a query for nothing but this target, with one exception: an exact query without an anchor
asks the defaults if it has no part for the verb.

The main statement is `Session.active_verb_named`: to name the active verb is the same as to leave
the verb out, in queries and in listings.
-/

namespace UseCase

variable {c : Card} {a : Activation} {v : Verb} {name : String}

namespace Lookup

/-- The name of the active verb leads to the active verb. -/
lemma target_named_active (distinct : (c.verbs.map Verb.name).Nodup)
    (active : a.activeVerb? c = some v) : target c a (.named v.name) = target c a .current := by
  obtain ⟨index, here, there⟩ := Option.bind_eq_some_iff.mp active
  have member : v ∈ c.verbs := Activation.mem_of_activeVerb? active
  obtain ⟨i, found, there'⟩ := Card.findVerb?_of_mem distinct member
  have same : i = index := position_unique distinct there' there rfl
  subst same
  simp only [target, found, here, Option.bind_some]

/-- An exact query asks the same scope whether the target was named or not. -/
lemma exactly_named (t? : Option Target) (q : ValueQuery) :
    exactly c a t? { q with verb := .named name } = exactly c a t? { q with verb := .current } := by
  obtain ⟨sought, anchor, verb, exact⟩ := q
  unfold exactly
  cases anchor with
  | some anchor => rfl
  | none => cases t? <;> rfl

/-- A query that names the active verb has the result of the one that means the active verb. -/
lemma resolve_named_active (distinct : (c.verbs.map Verb.name).Nodup)
    (active : a.activeVerb? c = some v) (q : ValueQuery) :
    resolve c a { q with verb := .named v.name } = resolve c a { q with verb := .current } := by
  simp only [resolve, target_named_active distinct active, exactly_named]
  rfl

/-- Where a query is neither exact nor anchored, it makes no difference whether its part for the
verb is empty or left out. -/
lemma resolve_unspecified {q : ValueQuery} (unanchored : q.anchor = none)
    (cascading : q.exact = false) :
    resolve c a { q with verb := .unspecified } = resolve c a { q with verb := .current } := by
  obtain ⟨sought, anchor, verb, exact⟩ := q
  cases unanchored
  cases cascading
  rfl

/-- An anchor stands for the same entity of the active verb whether this is named or not. -/
lemma anchorEntity_named_active (distinct : (c.verbs.map Verb.name).Nodup)
    (active : a.activeVerb? c = some v) (anchor : Anchor) :
    anchorEntity c a (.named v.name) anchor = anchorEntity c a .current anchor := by
  rw [anchorEntity, anchorEntity, target_named_active distinct active]

end Lookup

/-- The first listing is about a verb that it names, and the second one is the same about the active
verb, which it does not name. -/
inductive Listing.Names (verb : String) : Listing → Listing → Prop
  | entities (kind : Kind) : Names verb (.entities kind (some verb)) (.entities kind none)
  | toneQualities : Names verb (.toneQualities (some verb)) (.toneQualities none)
  | about (aspect : Aspect) (anchor : Anchor) :
    Names verb (.about aspect anchor (.named verb)) (.about aspect anchor .current)

/-- A listing that names a verb is not the list of cards. -/
lemma Listing.Names.ne_cards {listing listing' : Listing} (names : Names name listing listing') :
    listing ≠ .cards ∧ listing' ≠ .cards := by
  cases names <;> exact ⟨Listing.noConfusion, Listing.noConfusion⟩

namespace Session

variable {σ : Type} {l : Loader σ} {s : Session σ} {listing listing' : Listing}

/-- The verb that the status shows is the active one. -/
lemma activeVerb?_of_status (active : s.status.verb = some name) :
    ∃ v, s.rig.activation.activeVerb? s.card = some v ∧ v.name = name := by
  rw [status, Activation.status] at active
  cases found : s.rig.activation.activeVerb? s.card with
  | none =>
    rw [found] at active
    cases active
  | some v =>
    rw [found] at active
    exact ⟨v, rfl, Option.some.inj active⟩

/-- Naming the active verb is the same as naming none. -/
lemma verbOrActive_named (distinct : (s.card.verbs.map Verb.name).Nodup)
    (active : s.rig.activation.activeVerb? s.card = some v) :
    s.verbOrActive (some v.name) = s.verbOrActive none := by
  have member : v ∈ s.card.verbs := Activation.mem_of_activeVerb? active
  obtain ⟨i, found, there⟩ := Card.findVerb?_of_mem distinct member
  simp only [verbOrActive, active, found, Option.bind_some, there]

/-- What is listed about the active verb is the same whether this is named or not. -/
lemma listed_named_active (distinct : (s.card.verbs.map Verb.name).Nodup)
    (active : s.rig.activation.activeVerb? s.card = some v)
    (names : Listing.Names v.name listing listing') : s.listed listing = s.listed listing' := by
  cases names with
  | entities kind => simp only [listed, verbOrActive_named distinct active]
  | toneQualities => simp only [listed, verbOrActive_named distinct active]
  | about aspect anchor =>
    simp only [listed, Lookup.anchorEntity_named_active distinct active]

/-- A text that is read as a listing about a verb is answered with what is listed. -/
lemma list_eq_listed {text : Option String} (read : Listing.parse text = .ok listing)
    (other : listing ≠ .cards) (s : Session σ) :
    list l text s = (ofExcept (s.listed listing) : Op σ (List Entry)) s := by
  rw [list, read]
  cases listing with
  | cards => exact absurd rfl other
  | verbs | entities | toneQualities | active | about => rfl

/-- To name the active verb of a valid card is the same as to leave the verb out, whatever is active
in it. A query, exact or not and with any anchor, has the same result, value or failure; one that is
neither exact nor anchored may even have no part for the verb. A listing of the entities, of the
tone qualities or about an anchor is the same as well, and so is the answer to the texts that are
read as these listings. -/
theorem active_verb_named (valid : s.card.validate = .ok ()) (active : s.status.verb = some name) :
    (∀ q : ValueQuery,
      s.resolve { q with verb := .named name } = s.resolve { q with verb := .current } ∧
      (q.anchor = none → q.exact = false →
        s.resolve { q with verb := .unspecified } = s.resolve { q with verb := .named name })) ∧
    ∀ listing listing', Listing.Names name listing listing' →
      s.listed listing = s.listed listing' ∧
      ∀ (l : Loader σ) (text text' : Option String), Listing.parse text = .ok listing →
        Listing.parse text' = .ok listing' → list l text s = list l text' s := by
  have distinct := (Card.validate_iff.mp valid).distinct
  obtain ⟨v, active', rfl⟩ := activeVerb?_of_status active
  have named (q : ValueQuery) :
      s.resolve { q with verb := .named v.name } = s.resolve { q with verb := .current } :=
    Lookup.resolve_named_active distinct active' q
  constructor
  · intro q
    refine ⟨named q, fun unanchored cascading => ?_⟩
    exact (Lookup.resolve_unspecified unanchored cascading).trans (named q).symm
  · intro listing listing' names
    have same := listed_named_active distinct active' names
    refine ⟨same, fun l text text' read read' => ?_⟩
    rw [list_eq_listed read names.ne_cards.1, list_eq_listed read' names.ne_cards.2, same]

/-- A session in which one of two displays of the same stem is active, the second one. -/
def displaying : Session Recorder :=
  ⟨0, .named "TestCard", Lookup.displays, ⟨⟨some 0, [1], [], true⟩, .fresh⟩⟩

/-- The active display is asked and listed for the stem, and the verb may be named or not. -/
theorem displaying_named :
    let l : Loader Recorder := serving Lookup.displays
    displaying.card.validate = .ok () ∧ displaying.status.verb = some "HiFi" ∧
      displaying.resolve ⟨"PlaybackPCM", some ⟨.any, "HDMI"⟩, .current, true⟩ = .ok "hw:0,7" ∧
      displaying.resolve ⟨"PlaybackPCM", some ⟨.any, "HDMI"⟩, .named "HiFi", true⟩ = .ok "hw:0,7" ∧
      displaying.resolve ⟨"PlaybackPCM", none, .unspecified, false⟩ =
        displaying.resolve ⟨"PlaybackPCM", none, .named "HiFi", false⟩ ∧
      list l (some "_devices/HiFi") displaying = list l (some "_devices") displaying ∧
      list l (some "_identifiers/HDMI/HiFi") displaying =
        list l (some "_identifiers/HDMI") displaying := by
  intro l
  have valid : displaying.card.validate = .ok () := by rfl
  have active : displaying.status.verb = some "HiFi" := by rfl
  obtain ⟨queries, listings⟩ := active_verb_named valid active
  have current : displaying.resolve ⟨"PlaybackPCM", some ⟨.any, "HDMI"⟩, .current, true⟩ =
      .ok "hw:0,7" := by rfl
  refine ⟨valid, active, current, ?_, ?_, ?_, ?_⟩
  · exact (queries ⟨"PlaybackPCM", some ⟨.any, "HDMI"⟩, .current, true⟩).1.trans current
  · exact (queries ⟨"PlaybackPCM", none, .current, false⟩).2 rfl rfl
  · exact (listings _ _ (.entities .device)).2 l _ _ (by rfl) (by rfl)
  · exact (listings _ _ (.about .identifiers ⟨.any, "HDMI"⟩)).2 l _ _ (by rfl) (by rfl)

end Session

end UseCase
