import Mathlib.Data.List.Nodup
import Mathlib.Tactic.Common
import UseCase.Proofs.ExactLookup
import UseCase.Proofs.ListedAnchor
import UseCase.Session

/-!
# Addressing entities

An anchor that is exactly the name of an entity addresses this entity and no other one
(`meant?_own`, `eq_of_mem_pooled`), provided that the kind of the entity is tried first: devices
have to be asked for as such, modifiers come first anyway. Any other anchor is compared without its
blanks, so that all of its spellings mean the same (`meant?_spelling`).

The main statement is `Session.names_and_spellings`: what this makes of queries and listings that
have an anchor.
-/

namespace UseCase

variable {c : Card} {a : Activation} {v : Verb} {kind : Kind} {e : Entity}
variable {name spelling : String} {selector : VerbSelector}

namespace Lookup

/-- The verb is selected by its name, or it is the active one and no other verb is named. -/
inductive Selects (c : Card) (a : Activation) (v : Verb) : VerbSelector → Prop
  | named : Selects c a v (.named v.name)
  | current (active : a.activeVerb? c = some v) : Selects c a v .current
  | unspecified (active : a.activeVerb? c = some v) : Selects c a v .unspecified

/-- A verb of a valid card that is selected is the one that is meant. -/
lemma Selects.subject_eq (selects : Selects c a v selector) (valid : c.Valid)
    (member : v ∈ c.verbs) : subject c a selector = .ok (some v) := by
  cases selects with
  | current active => exact congrArg Except.ok active
  | unspecified active => exact congrArg Except.ok active
  | named =>
    obtain ⟨i, found, there⟩ := Card.findVerb?_of_mem valid.distinct member
    have first : c.verbs.find? (fun other => other.name == v.name) = some v := by
      rw [List.find?_eq_bind_findIdx?_getElem?, ← Card.findVerb?, found, Option.bind_some]
      exact there
    rw [subject, first]

/-! ## Queries with an anchor -/

/-- The verb that is meant is that of a target. -/
lemma exists_target (found : subject c a selector = .ok (some v)) :
    ∃ t, target c a selector = .ok (some t) ∧ t.verb = v := by
  rw [subject_eq] at found
  cases sought : target c a selector with
  | error f =>
    rw [sought] at found
    cases found
  | ok t? =>
    rw [sought] at found
    obtain ⟨t, rfl, same⟩ := Option.map_eq_some_iff.mp (Except.ok.inj found)
    exact ⟨t, rfl, same⟩

/-- An exact query is answered by the pool of its anchor. -/
lemma resolve_anchored (valid : c.Valid) (found : subject c a selector = .ok (some v))
    (anchor : Anchor) (name : String) :
    resolve c a ⟨name, some anchor, selector, true⟩ =
      match meant? v anchor with
      | some (kind, way) => answerOf name ((Layer.entities (pooled c a v kind way)).value? name)
      | none => .error (.notFound (.anchor anchor.name v.name)) := by
  obtain ⟨t, sought, rfl⟩ := exists_target found
  simp only [resolve, sought, ok_bind, exactly, require, if_true,
    anchored_eq valid (verb?_of_target sought)]
  cases meant? t.verb anchor with
  | none => rfl
  | some meant =>
    obtain ⟨kind, way⟩ := meant
    cases (Layer.entities (pooled c a t.verb kind way)).value? name <;> rfl

/-- A query that is not exact is answered by the pool of its anchor, or else by the verb of that, or
else by the defaults. -/
lemma resolve_anchored_cascade (valid : c.Valid) (found : subject c a selector = .ok (some v))
    (anchor : Anchor) (name : String) :
    resolve c a ⟨name, some anchor, selector, false⟩ =
      match meant? v anchor with
      | some (kind, way) =>
        answerOf name (((Layer.entities (pooled c a v kind way)).value? name).or
          ((v.values.get? name).or (c.defaults.get? name)))
      | none => .error (.notFound (.anchor anchor.name v.name)) := by
  obtain ⟨t, sought, rfl⟩ := exists_target found
  simp only [resolve, sought, ok_bind, cascade, require, Bool.false_eq_true, if_false,
    anchored_eq valid (verb?_of_target sought)]
  cases meant? t.verb anchor with
  | none => rfl
  | some meant =>
    obtain ⟨kind, way⟩ := meant
    change _ = answerOf name (((Layer.entities (pooled c a t.verb kind way)).value? name).or
      (fromVerb c (some t) name))
    simp only [ok_bind]
    cases Option.or _ (fromVerb c (some t) name) <;> rfl

/-- The entity that an anchor stands for is the listed one of those that it means. -/
lemma anchorEntity_anchored (valid : c.Valid) (found : subject c a selector = .ok (some v))
    (anchor : Anchor) :
    anchorEntity c a selector anchor =
      match (meant? v anchor).bind fun (kind, way) => listed? c a v kind way with
      | some e => .ok e
      | none => .error (.notFound (.anchor anchor.name v.name)) := by
  obtain ⟨t, sought, rfl⟩ := exists_target found
  exact anchorEntity_eq valid sought

/-! ## Exact names -/

/-- The anchor that asks for a name among the entities of a kind first. -/
def anchorTo (name : String) : Kind → Anchor
  | .device => ⟨.device, name⟩
  | .modifier => ⟨.any, name⟩

/-- The exact name of an entity means the entities of this name. -/
lemma meant?_own (member : e ∈ v.entities kind) :
    meant? v (anchorTo e.name kind) = some (kind, fun other => other.name == e.name) := by
  have there : (v.entities kind).any (fun other => other.name == e.name) = true :=
    List.any_eq_true.mpr ⟨e, member, beq_self_eq_true e.name⟩
  have closest : (ways e.name).find? (v.entities kind).any =
      some fun other => other.name == e.name := by
    rw [ways, List.find?_cons, there]
  cases kind with
  | device =>
    rw [meant?, anchorTo, kinds, List.findSome?_cons, closest]
    rfl
  | modifier =>
    rw [meant?, anchorTo, kinds, List.findSome?_cons, closest]
    rfl

/-- The only entity in the pool of an exact name is the one that has it. -/
lemma eq_of_mem_pooled (valid : v.Valid) (member : e ∈ v.entities kind) :
    ∀ e' ∈ pooled c a v kind fun other => other.name == e.name, e' = e := by
  intro e' pooled
  obtain ⟨member', named⟩ := List.mem_filter.mp (mem_of_mem_pooled pooled)
  exact List.inj_on_of_nodup_map (valid.distinct kind) member' member (beq_iff_eq.mp named)

/-- The pool of the exact name of an entity is not empty. -/
lemma pooled_own_ne_nil (member : e ∈ v.entities kind) :
    pooled c a v kind (fun other => other.name == e.name) ≠ [] := by
  refine pooled_ne_nil (List.ne_nil_of_mem (List.mem_filter.mpr ⟨member, ?_⟩))
  exact beq_self_eq_true e.name

/-- The values that are found under an exact name are those of the entity that has it. -/
lemma value?_own (valid : v.Valid) (member : e ∈ v.entities kind) (name : String) :
    (Layer.entities (pooled c a v kind fun other => other.name == e.name)).value? name =
      e.values.get? name :=
  value?_of_forall_eq (pooled_own_ne_nil member) (eq_of_mem_pooled valid member)

/-- An entity is listed if there is one in the pool. -/
lemma listed?_isSome {way : Entity → Bool} (any : pooled c a v kind way ≠ []) :
    ∃ e, listed? c a v kind way = some e := by
  rw [pooled] at any
  rw [← Option.isSome_iff_exists, Option.isSome_iff_ne_none, listed?]
  cases active : preferred c a v kind way with
  | nil =>
    rw [active] at any
    exact mt List.head?_eq_none_iff.mp any
  | cons first others => exact mt List.argmax_eq_none.mp (List.cons_ne_nil first others)

/-- The exact name of an entity lists this entity. -/
lemma listed?_own (valid : v.Valid) (member : e ∈ v.entities kind) :
    listed? c a v kind (fun other => other.name == e.name) = some e := by
  obtain ⟨e', listed⟩ := listed?_isSome (pooled_own_ne_nil member)
  rw [listed, eq_of_mem_pooled valid member e' (mem_of_listed? listed)]

/-! ## Other spellings -/

/-- No entity of the verb has exactly this name. -/
def Unnamed (v : Verb) (name : String) : Prop :=
  ∀ kind, ∀ e ∈ v.entities kind, e.name ≠ name

/-- Names that differ in blanks only, and are not names of entities, mean the same. -/
lemma meant?_spelling (same : Name.key name = Name.key spelling) (unnamed : Unnamed v name)
    (unnamed' : Unnamed v spelling) (which : AnchorKind) :
    meant? v ⟨which, name⟩ = meant? v ⟨which, spelling⟩ := by
  have inexact {name : String} (unnamed : Unnamed v name) (kind : Kind) :
      (v.entities kind).any (fun e => e.name == name) = false := by
    rw [List.any_eq_false]
    exact fun e member => mt beq_iff_eq.mp (unnamed kind e member)
  have closest (kind : Kind) :
      (ways name).find? (v.entities kind).any = (ways spelling).find? (v.entities kind).any := by
    simp only [ways, List.find?_cons, inexact unnamed kind, inexact unnamed' kind, same]
  simp only [meant?, closest]

/-- Two results are alike if they are the same value, or if on both sides something was not
found. -/
inductive Alike {α : Type} : Except Fault α → Except Fault α → Prop
  | same (x : α) : Alike (.ok x) (.ok x)
  | missing (what what' : Missing) : Alike (.error (.notFound what)) (.error (.notFound what'))

/-- What is made of values that are alike is alike. -/
lemma Alike.bind_ok {α β : Type} {x y : Except Fault α} (alike : Alike x y) (f : α → β) :
    Alike (x >>= fun value => .ok (f value)) (y >>= fun value => .ok (f value)) := by
  cases alike with
  | same value => exact .same (f value)
  | missing what what' => exact .missing what what'

/-- An answer is like itself. -/
lemma alike_answerOf (name : String) (found : Option String) :
    Alike (answerOf name found) (answerOf name found) := by
  cases found with
  | some value => exact .same value
  | none => exact .missing _ _

/-- Queries whose anchors mean the same have results that are alike. -/
lemma resolve_alike (valid : c.Valid) (found : subject c a selector = .ok (some v))
    {anchor anchor' : Anchor} (same : meant? v anchor = meant? v anchor') (name : String)
    (exact : Bool) :
    Alike (resolve c a ⟨name, some anchor, selector, exact⟩)
      (resolve c a ⟨name, some anchor', selector, exact⟩) := by
  cases exact with
  | true =>
    rw [resolve_anchored valid found, resolve_anchored valid found, same]
    cases meant? v anchor' with
    | none => exact .missing _ _
    | some meant => exact alike_answerOf name _
  | false =>
    rw [resolve_anchored_cascade valid found, resolve_anchored_cascade valid found, same]
    cases meant? v anchor' with
    | none => exact .missing _ _
    | some meant => exact alike_answerOf name _

/-- Anchors that mean the same stand for the same entity, if for any. -/
lemma anchorEntity_alike (valid : c.Valid) (found : subject c a selector = .ok (some v))
    {anchor anchor' : Anchor} (same : meant? v anchor = meant? v anchor') :
    Alike (anchorEntity c a selector anchor) (anchorEntity c a selector anchor') := by
  rw [anchorEntity_anchored valid found, anchorEntity_anchored valid found, same]
  cases (meant? v anchor').bind fun (kind, way) => listed? c a v kind way with
  | none => exact .missing _ _
  | some e => exact .same e

end Lookup

namespace Session

open Lookup

variable {σ : Type} {s : Session σ}

/-- What is listed about an anchor is that of the entity for which it stands. -/
lemma listed_about (s : Session σ) (what : Aspect) (anchor : Anchor) (selector : VerbSelector) :
    s.listed (.about what anchor selector) =
      anchorEntity s.card s.rig.activation selector anchor >>= fun e =>
        .ok ((aspect e what).map .plain) :=
  rfl

/-- In a valid card, whatever is active, the exact name of an entity addresses this entity and no
other one, provided that a device is asked for as a device. An exact query is answered with what the
entity has itself, one that goes on with that or else with what its verb or the defaults have, and
what is listed is about the entity. Names that differ in blanks only, and that no entity of the verb
has, make no difference as anchors: queries and listings have the same results, or else with both
names something is not found. -/
theorem names_and_spellings (valid : s.card.validate = .ok ()) (member : v ∈ s.card.verbs)
    (selects : Selects s.card s.rig.activation v selector) :
    (∀ kind, ∀ e ∈ v.entities kind,
      (∀ name,
        s.resolve ⟨name, some (anchorTo e.name kind), selector, true⟩ =
          answerOf name (e.values.get? name) ∧
        s.resolve ⟨name, some (anchorTo e.name kind), selector, false⟩ =
          answerOf name ((e.values.get? name).or
            ((v.values.get? name).or (s.card.defaults.get? name)))) ∧
      ∀ what, s.listed (.about what (anchorTo e.name kind) selector) =
        .ok ((aspect e what).map .plain)) ∧
    ∀ spelling spelling', Name.key spelling = Name.key spelling' →
      Unnamed v spelling → Unnamed v spelling' → ∀ which,
        (∀ name exact,
          Alike (s.resolve ⟨name, some ⟨which, spelling⟩, selector, exact⟩)
            (s.resolve ⟨name, some ⟨which, spelling'⟩, selector, exact⟩)) ∧
        ∀ what, Alike (s.listed (.about what ⟨which, spelling⟩ selector))
          (s.listed (.about what ⟨which, spelling'⟩ selector)) := by
  have valid := Card.validate_iff.mp valid
  have found := selects.subject_eq valid member
  have sound : v.Valid := valid.verbs v member
  constructor
  -- The own name of an entity comes before all other ways to mean one, and names are unique.
  · intro kind e member
    have own := meant?_own member
    refine ⟨fun name => ⟨?_, ?_⟩, fun what => ?_⟩
    · rw [resolve, resolve_anchored valid found, own]
      simp only [value?_own sound member]
    · rw [resolve, resolve_anchored_cascade valid found, own]
      simp only [value?_own sound member]
    · rw [listed_about, anchorEntity_anchored valid found, own]
      simp only [Option.bind_some, listed?_own sound member, ok_bind]
  -- Without an entity of this very name only the keys count, and these are the same.
  · intro spelling spelling' same unnamed unnamed' which
    have meant := meant?_spelling same unnamed unnamed' which
    refine ⟨resolve_alike valid found meant, fun what => ?_⟩
    rw [listed_about, listed_about]
    exact (anchorEntity_alike valid found meant).bind_ok _

/-- A verb with three lines, two of which differ in a blank only, and with a modifier that has the
name of the third one. -/
def lines : Verb :=
  { Verb.plain "HiFi" with
    devices := [display "Line 1" 1 "hw:0,0", display "Line1" 10 "hw:0,1", display "Line" 5 "hw:0,2"]
    modifiers := [Entity.plain .modifier "Line"] }

/-- A session in which the second and the third line are active. -/
def lining : Session Recorder :=
  ⟨0, .named "TestCard", { displays with verbs := [lines] }, ⟨⟨some 0, [1, 2], [], true⟩, .fresh⟩⟩

/-- The first line answers to its name though the second one is active and has a higher priority,
and the modifier does not leave its name to the third line. Other spellings mean the second line. -/
theorem lining_addressed :
    lining.card.validate = .ok () ∧ lines ∈ lining.card.verbs ∧
      lining.resolve ⟨"PlaybackPCM", some ⟨.device, "Line 1"⟩, .named "HiFi", true⟩ =
        .ok "hw:0,0" ∧
      lining.resolve ⟨"PlaybackPCM", some ⟨.any, "Line"⟩, .named "HiFi", true⟩ =
        .error (.notFound (.value "PlaybackPCM")) ∧
      lining.resolve ⟨"PlaybackPCM", some ⟨.any, "L ine1"⟩, .named "HiFi", true⟩ = .ok "hw:0,1" ∧
      Alike (lining.resolve ⟨"PlaybackPCM", some ⟨.any, "L ine1"⟩, .named "HiFi", true⟩)
        (lining.resolve ⟨"PlaybackPCM", some ⟨.any, "Line\t 1"⟩, .named "HiFi", true⟩) := by
  have valid : lining.card.validate = .ok () := by rfl
  have member : lines ∈ lining.card.verbs := List.mem_singleton_self lines
  have first : display "Line 1" 1 "hw:0,0" ∈ lines.entities .device := by decide
  have modifier : Entity.plain .modifier "Line" ∈ lines.entities .modifier := by decide
  have unnamed : Unnamed lines "L ine1" := by
    intro kind
    cases kind <;> decide
  have unnamed' : Unnamed lines "Line\t 1" := by
    intro kind
    cases kind <;> decide
  obtain ⟨names, spellings⟩ := names_and_spellings valid member (Selects.named (v := lines))
  refine ⟨valid, member, ?_, ?_, by rfl, ?_⟩
  · exact ((names .device _ first).1 "PlaybackPCM").1.trans (by rfl)
  · exact ((names .modifier _ modifier).1 "PlaybackPCM").1.trans (by rfl)
  · exact (spellings "L ine1" "Line\t 1" (by rfl) unnamed unnamed' .any).1 "PlaybackPCM" true

end Session

end UseCase
