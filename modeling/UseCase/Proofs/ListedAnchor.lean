import Mathlib.Data.List.MinMax
import Mathlib.Tactic.Common
import UseCase.Proofs.Outcome
import UseCase.Proofs.Reachable
import UseCase.Proofs.Resolution
import UseCase.Recorder

/-!
# Listed anchors

An anchor is looked at in two ways: to list something about the entity for which it stands, and to
answer a query that is confined to it. Of several entities that an anchor addresses, `listed?` is
the one that is listed. A query asks the one of the highest priority among those that have the
value.

The main statement `anchorEntity_asked` compares the two. They are the same entity if any addressed
entity is active, or if only one is addressed. If none is active the first one in the description is
listed whatever its priority, so that a query may ask another one.
-/

namespace UseCase.Lookup

variable {c : Card} {a : Activation} {v : Verb} {t : Target} {kind : Kind} {way : Entity → Bool}
variable {name value : String} {selector : VerbSelector} {anchor : Anchor} {e : Entity}

/-- Of the entities that an anchor addresses the one that is listed: among preferred ones the one of
the highest priority, or else the first one of the description. -/
def listed? (c : Card) (a : Activation) (v : Verb) (kind : Kind) (way : Entity → Bool) :
    Option Entity :=
  match preferred c a v kind way with
  | [] => ((v.entities kind).filter way).head?
  | active => active.argmax Entity.priority

/-- The first candidate is the listed entity. -/
lemma head?_pool (valid : c.Valid) (here : c.verb? t.index = some t.verb) :
    (pool a t ⟨kind, positions way (t.verb.entities kind)⟩).head? =
      listed? c a t.verb kind way := by
  rw [pool_eq valid here, listed?]
  cases preferred c a t.verb kind way with
  | nil => rfl
  | cons first others => exact Ranking.head?_rankBy _

/-- The entity that is listed for an anchor is the listed one of those that it addresses. -/
lemma anchorEntity_eq (valid : c.Valid) (found : target c a selector = .ok (some t)) :
    anchorEntity c a selector anchor =
      match (meant? t.verb anchor).bind fun (kind, way) => listed? c a t.verb kind way with
      | some e => .ok e
      | none => .error (.notFound (.anchor anchor.name t.verb.name)) := by
  have here := verb?_of_target found
  have member : t.verb ∈ c.verbs := List.mem_of_getElem? here
  rw [anchorEntity, found, ok_bind]
  simp only [require, ok_bind, candidates_eq (valid.verbs t.verb member)]
  cases meant? t.verb anchor with
  | none => rfl
  | some meant =>
    obtain ⟨kind, way⟩ := meant
    simp only [ok_bind, Option.bind_some, ← head?_pool valid here]
    cases pool a t ⟨kind, positions way (t.verb.entities kind)⟩ <;> rfl

/-- What is listed for an anchor is listed of a verb, for what the anchor means there. -/
lemma listed?_of_anchorEntity (valid : c.Valid)
    (listed : anchorEntity c a selector anchor = .ok e) :
    ∃ t kind way, target c a selector = .ok (some t) ∧ meant? t.verb anchor = some (kind, way) ∧
      listed? c a t.verb kind way = some e := by
  cases found : target c a selector with
  | error f =>
    rw [anchorEntity, found] at listed
    cases listed
  | ok sought =>
    cases sought with
    | none =>
      rw [anchorEntity, found] at listed
      cases listed
    | some t =>
      rw [anchorEntity_eq valid found] at listed
      split at listed
      · rename_i e' there
        cases listed
        obtain ⟨⟨kind, way⟩, meant, chosen⟩ := Option.bind_eq_some_iff.mp there
        exact ⟨t, kind, way, rfl, meant, chosen⟩
      · cases listed

/-! ## Queries that are confined to an anchor -/

/-- Of the entities that an anchor addresses the one that a query asks: of those that have the
value the one of the highest priority, and the earliest of equal ones. -/
def asked? (c : Card) (a : Activation) (v : Verb) (kind : Kind) (way : Entity → Bool)
    (name : String) : Option Entity :=
  ((addressed c a v kind way).filter fun e => e.values.contains name).argmax Entity.priority

/-- A query that is confined to an anchor is answered by the entity that it asks. -/
lemma resolve_of_asked? (valid : c.Valid) (filed : c.Filed)
    (found : target c a selector = .ok (some t))
    (meant : meant? t.verb anchor = some (kind, way)) (asks : asked? c a t.verb kind way name = e)
    (has : e.values.get? name = some value) :
    resolve c a ⟨name, some anchor, selector, true⟩ = .ok value := by
  have here := verb?_of_target found
  have answered : anchored a t anchor name = .ok (some value) := by
    rw [anchored_eq valid here, meant]
    simp only [pooled_of_filed (filed t.verb (List.mem_of_getElem? here))]
    change Except.ok ((asked? c a t.verb kind way name).bind fun e => e.values.get? name) = _
    rw [asks, Option.bind_some, has]
  simp only [resolve, found, ok_bind, exactly, require, if_true, answered]
  rfl

/-- The entity that is asked is an addressed one that has the value. -/
lemma mem_of_asked? (asks : asked? c a v kind way name = some e) :
    e ∈ addressed c a v kind way ∧ e.values.contains name = true :=
  List.mem_filter.mp (List.argmax_mem asks)

/-! ## Both ways -/

/-- The listed entity is one of the pool. -/
lemma mem_of_listed? (listed : listed? c a v kind way = some e) : e ∈ pooled c a v kind way := by
  rw [listed?] at listed
  rw [pooled]
  cases active : preferred c a v kind way with
  | nil =>
    rw [active] at listed
    exact List.mem_of_head? listed
  | cons first others =>
    rw [active] at listed
    exact List.argmax_mem listed

/-- The listed entity is asked if it is active and has the value. -/
lemma asked?_of_active (filed : v.Filed) (listed : listed? c a v kind way = some e)
    (active : (activeOf c a v kind).filter way ≠ []) (has : e.values.contains name = true) :
    asked? c a v kind way name = some e := by
  rw [listed?, preferred_of_filed filed] at listed
  rw [asked?, addressed]
  cases matched : (activeOf c a v kind).filter way with
  | nil => exact absurd matched active
  | cons first others =>
    -- It is the first one of the ranking, so it is the first one there that has the value.
    rw [matched] at listed
    change List.argmax _ (first :: others) = some e at listed
    change List.argmax _ (List.filter _ (first :: others)) = some e
    rw [← Ranking.head?_rankBy] at listed
    obtain ⟨rest, ranked⟩ := List.head?_eq_some_iff.mp listed
    rw [← Ranking.find?_rankBy, ranked, List.find?_cons, has]

/-- The listed entity is asked if it has the value and none that does has a higher priority. -/
lemma asked?_of_le (filed : v.Filed) (listed : listed? c a v kind way = some e)
    (has : e.values.contains name = true)
    (lead : ∀ e' ∈ addressed c a v kind way, e'.values.contains name = true →
      e'.priority ≤ e.priority) :
    asked? c a v kind way name = some e := by
  cases matched : (activeOf c a v kind).filter way with
  | cons first others =>
    exact asked?_of_active filed listed (matched ▸ List.cons_ne_nil first others) has
  | nil =>
    -- It is the first one of the description, so no other one can be as high and earlier.
    rw [listed?, preferred_of_filed filed, matched] at listed
    rw [addressed, matched] at lead
    rw [asked?, addressed, matched]
    obtain ⟨rest, inOrder⟩ := List.head?_eq_some_iff.mp listed
    simp only [inOrder] at lead ⊢
    rw [List.filter_cons, if_pos has, ← Ranking.head?_rankBy, Ranking.rankBy,
      Ranking.place_of_le, List.head?_cons]
    intro e' member
    obtain ⟨member, has'⟩ := List.mem_filter.mp (Ranking.mem_rankBy.mp member)
    exact lead e' (List.mem_cons_of_mem e member) has'

/-- In a valid card in which every entity is listed under its own kind, whatever is active: if an
entity is listed for an anchor and has a value, then the query for this value that is confined to
the anchor is answered, by the entity that it asks. This is the listed one exactly if no addressed
entity that has the value has a higher priority, and so it is if any addressed entity is active. -/
theorem anchorEntity_asked (valid : c.validate = .ok ()) (filed : c.Filed)
    (listed : anchorEntity c a selector anchor = .ok e) (has : e.values.contains name = true) :
    ∃ v kind way asked value,
      subject c a selector = .ok (some v) ∧ meant? v anchor = some (kind, way) ∧
      asked? c a v kind way name = some asked ∧ asked.values.get? name = some value ∧
      resolve c a ⟨name, some anchor, selector, true⟩ = .ok value ∧
      (asked = e ↔ ∀ e' ∈ addressed c a v kind way, e'.values.contains name = true →
        e'.priority ≤ e.priority) ∧
      ((activeOf c a v kind).filter way ≠ [] → asked = e) := by
  have valid := Card.validate_iff.mp valid
  obtain ⟨t, kind, way, found, meant, chosen⟩ := listed?_of_anchorEntity valid listed
  have named : subject c a selector = .ok (some t.verb) := by
    rw [subject_eq, found]
    rfl
  have own : t.verb.Filed := filed t.verb (List.mem_of_getElem? (verb?_of_target found))
  have member : e ∈ addressed c a t.verb kind way := pooled_of_filed own ▸ mem_of_listed? chosen
  cases asks : asked? c a t.verb kind way name with
  | none =>
    have lacking := List.filter_eq_nil_iff.mp (List.argmax_eq_none.mp asks)
    exact absurd has (lacking e member)
  | some asked =>
    obtain ⟨-, has'⟩ := mem_of_asked? asks
    obtain ⟨value, answer⟩ := Option.isSome_iff_exists.mp has'
    refine ⟨t.verb, kind, way, asked, value, named, meant, asks, answer,
      resolve_of_asked? valid filed found meant asks answer, ⟨?_, fun lead => ?_⟩, fun active => ?_⟩
    · rintro rfl e' member has''
      exact List.le_of_mem_argmax (List.mem_filter.mpr ⟨member, has''⟩) asks
    · exact Option.some.inj (asks.symm.trans (asked?_of_le own chosen has lead))
    · exact Option.some.inj (asks.symm.trans (asked?_of_active own chosen active has))

/-- A display with a priority and the address of its sound. -/
def display (name : String) (priority : Nat) (address : String) : Entity :=
  { Entity.plain .device name with
    priority := priority
    values := ⟨[("PlaybackPCM", address)]⟩ }

/-- A card with two displays of one stem. The second one has the higher priority. -/
def displays : Card where
  info := .plain "TestCard"
  defaults := .empty
  fixedBoot := []
  boot := []
  defaultsSequence := []
  verbs := [{ Verb.plain "HiFi" with
    devices := [display "HDMI1" 1 "hw:0,3", display "HDMI2" 10 "hw:0,7"] }]

/-- The verb of the displays was made active. -/
lemma displays_reachable : Activation.Reachable displays ⟨some 0, [], [], true⟩ :=
  Activation.Reachable.fresh.led Recorder.backend (.command (.setVerb "HiFi")) .fresh (by decide)

/-- The display that is active is listed and asked, though the other one has a higher priority. -/
theorem active_display_asked :
    let a : Activation := ⟨some 0, [0], [], true⟩
    displays.validate = .ok () ∧ displays.Filed ∧
      anchorEntity displays a .current ⟨.any, "HDMI"⟩ = .ok (display "HDMI1" 1 "hw:0,3") ∧
      (display "HDMI1" 1 "hw:0,3").values.contains "PlaybackPCM" = true ∧
      ∃ v kind way asked value, (activeOf displays a v kind).filter way ≠ [] ∧
        asked = display "HDMI1" 1 "hw:0,3" ∧ asked.values.get? "PlaybackPCM" = some value ∧
        resolve displays a ⟨"PlaybackPCM", some ⟨.any, "HDMI"⟩, .current, true⟩ = .ok value := by
  intro a
  have valid : displays.validate = .ok () := by rfl
  have filed : displays.Filed := by decide
  have listed : anchorEntity displays a .current ⟨.any, "HDMI"⟩ =
      .ok (display "HDMI1" 1 "hw:0,3") := by rfl
  have has : (display "HDMI1" 1 "hw:0,3").values.contains "PlaybackPCM" = true := by decide
  obtain ⟨v, kind, way, asked, value, named, meant, -, answer, resolved, -, same⟩ :=
    anchorEntity_asked valid filed listed has
  have active : (activeOf displays a v kind).filter way ≠ [] := by
    cases named
    cases meant
    decide
  exact ⟨valid, filed, listed, has, v, kind, way, asked, value, active, same active, answer,
    resolved⟩

/-- Of two displays that are not active the first one is listed, and the other one is asked. -/
theorem inactive_display_listed :
    let a : Activation := ⟨some 0, [], [], true⟩
    let listed := display "HDMI1" 1 "hw:0,3"
    displays.validate = .ok () ∧ displays.Filed ∧ a.Reachable displays ∧
      anchorEntity displays a .current ⟨.any, "HDMI"⟩ = .ok listed ∧
      listed.values.get? "PlaybackPCM" = some "hw:0,3" ∧
      resolve displays a ⟨"PlaybackPCM", some ⟨.any, "HDMI"⟩, .current, true⟩ = .ok "hw:0,7" :=
  ⟨by rfl, by decide, displays_reachable, by rfl, by rfl, by rfl⟩

end UseCase.Lookup
