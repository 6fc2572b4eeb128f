import Mathlib.Tactic.Common
import UseCase.Proofs.ExactLookup
import UseCase.Proofs.Teardown
import UseCase.Sample

/-!
# Queries about a verb that is not active

Lookups read an activation in one way only: they ask which positions are active in their target
(`activeIn`). Where two activations agree on these, so do all lookups, the exact ones and the others
(`resolve_congr`, `anchorEntity_congr`). In a verb that is not active nothing is
(`activeIn_of_dormant`), so that a query which names it does not depend on the activation at all.
Nor does it stray into another verb: the answer is a value of the verb that is named, of one of its
entities, or of the defaults (`Provides`). The main statement is `resolve_dormant`.
-/

namespace UseCase.Lookup

variable {c : Card} {a a' : Activation} {t : Target} {kind : Kind} {name : String}

/-! ## What lookups read of an activation -/

/-- Two activations have the same active positions in a target. -/
def AgreeIn (t : Target) (a a' : Activation) : Prop :=
  ∀ kind, activeIn a t kind = activeIn a' t kind

/-- An anchor has the same pool where the same entities are active. -/
lemma pool_congr (agree : AgreeIn t a a') (found : Candidates) :
    pool a t found = pool a' t found := by
  rw [pool, pool]
  cases entitiesAt t found.kind found.indices with
  | nil => rfl
  | cons first others => simp only [agree first.kind]

/-- An anchored value is the same where the same entities are active. -/
lemma anchored_congr (agree : AgreeIn t a a') (anchor : Anchor) (name : String) :
    anchored a t anchor name = anchored a' t anchor name := by
  have same (found : Candidates) : holder? a t found name = holder? a' t found name := by
    rw [holder?, holder?, pool_congr agree]
  simp only [anchored, same]

/-- The value that active entities give is the same where the same entities are active. -/
lemma fromActive_congr (agree : AgreeIn t a a') (name : String) :
    fromActive a t name = fromActive a' t name := by
  simp only [fromActive, agree _]

/-- Where two activations agree on the target, an exact query has the same answer. -/
lemma exactly_congr {t? : Option Target} (agree : ∀ t, t? = some t → AgreeIn t a a')
    (q : ValueQuery) : exactly c a t? q = exactly c a' t? q := by
  unfold exactly
  cases q.anchor with
  | none => cases q.verb <;> cases t? <;> rfl
  | some anchor =>
    cases t? with
    | none => rfl
    | some t => exact anchored_congr (agree t rfl) anchor q.name

/-- Where two activations agree on the target, any other query has the same answer. -/
lemma cascade_congr {t? : Option Target} (agree : ∀ t, t? = some t → AgreeIn t a a')
    (q : ValueQuery) : cascade c a t? q = cascade c a' t? q := by
  unfold cascade
  cases t? with
  | none => cases q.anchor <;> rfl
  | some t =>
    cases q.anchor with
    | none => simp only [fromActive_congr (agree t rfl)]
    | some anchor => simp only [require, ok_bind, anchored_congr (agree t rfl)]

/-- Where two activations mean the same target and agree on it, a query has the same result. -/
lemma resolve_congr {q : ValueQuery} (same : target c a q.verb = target c a' q.verb)
    (agree : ∀ t, target c a q.verb = .ok (some t) → AgreeIn t a a') :
    resolve c a q = resolve c a' q := by
  rw [resolve, resolve, ← same]
  cases sought : target c a q.verb with
  | error f => rfl
  | ok t? =>
    have agree (t : Target) (known : t? = some t) : AgreeIn t a a' := agree t (known ▸ sought)
    rw [ok_bind, ok_bind, exactly_congr agree, cascade_congr agree]

/-- Where two activations mean the same target and agree on it, an anchor stands for the same entity.
-/
lemma anchorEntity_congr {verb : VerbSelector} (same : target c a verb = target c a' verb)
    (agree : ∀ t, target c a verb = .ok (some t) → AgreeIn t a a') (anchor : Anchor) :
    anchorEntity c a verb anchor = anchorEntity c a' verb anchor := by
  rw [anchorEntity, anchorEntity, ← same]
  cases sought : target c a verb with
  | error f => rfl
  | ok t? =>
    cases t? with
    | none => rfl
    | some t => simp only [require, ok_bind, pool_congr (agree t sought)]

/-! ## What a lookup finds -/

/-- The values that a query about a verb may be answered with. -/
inductive Provides (c : Card) (v : Verb) (name value : String) : Prop
  | entity {kind : Kind} {e : Entity} : e ∈ v.entities kind → e.values.get? name = some value →
    Provides c v name value
  | verb : v.values.get? name = some value → Provides c v name value
  | defaults : c.defaults.get? name = some value → Provides c v name value

/-- The entities at some positions are entities of the verb. -/
lemma mem_of_mem_entitiesAt {indices : List Nat} {e : Entity}
    (member : e ∈ entitiesAt t kind indices) : e ∈ t.verb.entities kind := by
  obtain ⟨i, -, there⟩ := List.mem_filterMap.mp member
  exact List.mem_of_getElem? there

/-- The candidates are entities of the target. -/
lemma mem_of_mem_pool {found : Candidates} {e : Entity} (member : e ∈ pool a t found) :
    e ∈ t.verb.entities found.kind := by
  rw [pool] at member
  split at member
  · cases member
  · rename_i first others all
    split at member
    · exact mem_of_mem_entitiesAt (all ▸ member)
    · -- A candidate that is active is found under the kind that was searched.
      obtain ⟨i, good, there⟩ := List.mem_filterMap.mp (Ranking.mem_rankBy.mp member)
      have own := (Bool.and_eq_true_iff.mp (List.mem_filter.mp good).2).1
      exact beq_iff_eq.mp own ▸ List.mem_of_getElem? there

/-- The entity that is selected is one of those among which it was. -/
lemma mem_of_select? {entities : List Entity} {e : Entity}
    (selected : Ranking.select? entities name = some e) : e ∈ entities :=
  Ranking.mem_rankBy.mp (List.mem_of_find?_eq_some selected)

/-- A value in an anchor is one of an entity of the target. -/
lemma provides_of_anchored {anchor : Anchor} {value : String}
    (answered : anchored a t anchor name = .ok (some value)) : Provides c t.verb name value := by
  obtain ⟨found, -, answered⟩ := bind_eq_ok.mp answered
  obtain ⟨e, held, has⟩ := Option.bind_eq_some_iff.mp (Except.ok.inj answered)
  have member : e ∈ t.verb.entities found.kind := by
    rw [holder?] at held
    split at held
    · exact List.mem_of_getElem? held
    · exact mem_of_mem_pool (mem_of_select? held)
  exact .entity member has

/-- A value of active entities is one of an entity of the target. -/
lemma provides_of_fromActive {value : String} (answered : fromActive a t name = some value) :
    Provides c t.verb name value := by
  obtain ⟨e, held, has⟩ := Option.bind_eq_some_iff.mp answered
  rcases Option.or_eq_some_iff.mp held with modifier | ⟨-, device⟩
  · exact .entity (mem_of_mem_entitiesAt (mem_of_select? modifier)) has
  · exact .entity (mem_of_mem_entitiesAt (mem_of_select? device)) has

/-- A value of the verb is one of its own or a default of its card. -/
lemma provides_of_fromVerb {value : String} (answered : fromVerb c (some t) name = some value) :
    Provides c t.verb name value := by
  rcases Option.or_eq_some_iff.mp answered with here | ⟨-, last⟩
  · exact .verb here
  · exact .defaults last

/-- What an exact query about a target is answered with is provided by its verb. -/
lemma provides_of_exactly {q : ValueQuery} {value : String}
    (answered : exactly c a (some t) q = .ok (some value)) :
    Provides c t.verb q.name value := by
  unfold exactly at answered
  split at answered
  · exact provides_of_anchored answered
  · exact .defaults (Except.ok.inj answered)
  · rename_i known _ same _
    cases same
    exact .verb (Except.ok.inj answered)
  · cases answered

/-- What any other query about a target is answered with is provided by its verb. -/
lemma provides_of_cascade {q : ValueQuery} {value : String}
    (answered : cascade c a (some t) q = .ok (some value)) :
    Provides c t.verb q.name value := by
  unfold cascade at answered
  split at answered
  · rename_i anchor _
    obtain ⟨known, same, answered⟩ := bind_eq_ok.mp answered
    cases same
    obtain ⟨found, held, answered⟩ := bind_eq_ok.mp answered
    rcases Option.or_eq_some_iff.mp (Except.ok.inj answered) with first | ⟨-, last⟩
    · exact provides_of_anchored (held.trans (congrArg Except.ok first))
    · exact provides_of_fromVerb last
  · rename_i known _ same
    cases same
    rcases Option.or_eq_some_iff.mp (Except.ok.inj answered) with first | ⟨-, last⟩
    · split_ifs at first
      exact provides_of_fromActive first
    · exact provides_of_fromVerb last
  · rename_i same
    cases same

/-! ## Verbs that are not active -/

/-- The active verb, if there is one, has another name. -/
def Dormant (c : Card) (name : String) (a : Activation) : Prop :=
  ∀ v, a.activeVerb? c = some v → v.name ≠ name

/-- The target of a query that names a verb is a verb of that name. -/
lemma target_named (found : target c a (.named name) = .ok (some t)) :
    c.verb? t.index = some t.verb ∧ t.verb.name = name := by
  have here := verb?_of_target found
  refine ⟨here, ?_⟩
  rw [target] at found
  cases sought : c.findVerb? name with
  | none =>
    rw [sought] at found
    cases found
  | some index =>
    obtain ⟨v, there, named⟩ := Card.verb?_of_findVerb? sought
    rw [sought] at found
    simp only [there, Option.map_some] at found
    cases found
    exact named

/-- In a verb that is not active no entity is. -/
lemma activeIn_of_dormant (dormant : Dormant c name a)
    (found : target c a (.named name) = .ok (some t)) (kind : Kind) : activeIn a t kind = [] := by
  obtain ⟨here, named⟩ := target_named found
  refine if_neg fun active => dormant t.verb ?_ named
  rw [Activation.activeVerb?, active, Option.bind_some, here]

/-- A verb that is named is one of the card, or nothing is found. -/
lemma target_named_cases (c : Card) (a : Activation) (name : String) :
    (∃ t, target c a (.named name) = .ok (some t)) ∨
      target c a (.named name) = .error (.notFound (.verb name)) := by
  rw [target]
  cases sought : c.findVerb? name with
  | none => exact .inr rfl
  | some index =>
    obtain ⟨v, there, -⟩ := Card.verb?_of_findVerb? sought
    simp only [there]
    exact .inl ⟨_, rfl⟩

/-- A value that a query is answered with was found in the target. -/
lemma found_of_resolve {q : ValueQuery} {value : String} (answered : resolve c a q = .ok value) :
    ∃ t?, target c a q.verb = .ok t? ∧
      (exactly c a t? q = .ok (some value) ∨ cascade c a t? q = .ok (some value)) := by
  obtain ⟨t?, sought, answered⟩ := bind_eq_ok.mp answered
  refine ⟨t?, sought, ?_⟩
  cases exact_ : q.exact with
  | true =>
    rw [exact_] at answered
    obtain ⟨found?, looked, given⟩ := bind_eq_ok.mp answered
    have given : answerOf q.name found? = .ok value := given
    exact .inl (looked.trans (congrArg Except.ok (answerOf_eq_ok.mp given)))
  | false =>
    rw [exact_] at answered
    obtain ⟨found?, looked, given⟩ := bind_eq_ok.mp answered
    have given : answerOf q.name found? = .ok value := given
    exact .inr (looked.trans (congrArg Except.ok (answerOf_eq_ok.mp given)))

/-- What a query that names a verb is answered with is provided by a verb of that name. -/
lemma provides_of_resolve {q : ValueQuery} {value : String} (named : q.verb = .named name)
    (answered : resolve c a q = .ok value) :
    ∃ v ∈ c.verbs, v.name = name ∧ Provides c v q.name value := by
  obtain ⟨t?, sought, looked⟩ := found_of_resolve answered
  rw [named] at sought
  rcases target_named_cases c a name with ⟨t, known⟩ | missing
  · obtain ⟨here, same⟩ := target_named known
    rw [known] at sought
    cases sought
    refine ⟨t.verb, List.mem_of_getElem? here, same, ?_⟩
    rcases looked with looked | looked
    · exact provides_of_exactly looked
    · exact provides_of_cascade looked
  · rw [missing] at sought
    cases sought

/-- What an anchor in a named verb stands for is an entity of a verb of that name. -/
lemma mem_of_anchorEntity {anchor : Anchor} {e : Entity}
    (answered : anchorEntity c a (.named name) anchor = .ok e) :
    ∃ v ∈ c.verbs, v.name = name ∧ ∃ kind, e ∈ v.entities kind := by
  obtain ⟨t?, sought, required⟩ := bind_eq_ok.mp answered
  obtain ⟨t, known, matched⟩ := bind_eq_ok.mp required
  obtain ⟨found, -, given⟩ := bind_eq_ok.mp matched
  have target : t? = some t := by
    cases t? with
    | none => cases known
    | some known' => exact congrArg some (Except.ok.inj known)
  obtain ⟨here, same⟩ := target_named (sought.trans (congrArg Except.ok target))
  refine ⟨t.verb, List.mem_of_getElem? here, same, found.kind, ?_⟩
  cases pooled : pool a t found with
  | nil =>
    rw [pooled] at given
    cases given
  | cons first others =>
    rw [pooled] at given
    cases given
    exact mem_of_mem_pool (pooled ▸ List.mem_cons_self)

/-- What is asked about a verb by name does not depend on the activation, as long as this verb is
not the active one: not on which other verb is active, not on what is active in it, not on whether
any is. A query has the same result, value or failure, and so has an anchor. The value is one of the
named verb, of its entities or of the defaults, and the entity is one of that verb. -/
theorem resolve_dormant (dormant : Dormant c name a) (dormant' : Dormant c name a') :
    (∀ q : ValueQuery, q.verb = .named name → resolve c a q = resolve c a' q ∧
      ∀ value, resolve c a q = .ok value →
        ∃ v ∈ c.verbs, v.name = name ∧ Provides c v q.name value) ∧
    ∀ anchor, anchorEntity c a (.named name) anchor = anchorEntity c a' (.named name) anchor ∧
      ∀ e, anchorEntity c a (.named name) anchor = .ok e →
        ∃ v ∈ c.verbs, v.name = name ∧ ∃ kind, e ∈ v.entities kind := by
  have agree (t : Target) (found : target c a (.named name) = .ok (some t)) : AgreeIn t a a' := by
    intro kind
    have found' : target c a' (.named name) = .ok (some t) := found
    rw [activeIn_of_dormant dormant found, activeIn_of_dormant dormant' found']
  have same : target c a (.named name) = target c a' (.named name) := rfl
  constructor
  · intro q named
    rw [← named] at same agree
    exact ⟨resolve_congr same agree, fun value answered => provides_of_resolve named answered⟩
  · intro anchor
    exact ⟨anchorEntity_congr same agree anchor, fun e answered => mem_of_anchorEntity answered⟩

/-- While music is played, the verb for calls answers as it does when nothing is active: it has no
playback address but in its handset, though a modifier and a device are active that have one, and
the handset is at the position of the active speaker. -/
theorem dormant_while_playing :
    let address : ValueQuery := ⟨"PlaybackPCM", none, .named "Voice Call", false⟩
    let handset : Anchor := ⟨.any, "Handset"⟩
    Dormant Sample.card "Voice Call" Rig.playing ∧ Dormant Sample.card "Voice Call" .fresh ∧
    resolve Sample.card Rig.playing address = .error (.notFound (.value "PlaybackPCM")) ∧
    resolve Sample.card .fresh address = .error (.notFound (.value "PlaybackPCM")) ∧
    resolve Sample.card Rig.playing { address with anchor := some handset } = .ok "hw:0,3" ∧
    resolve Sample.card .fresh { address with anchor := some handset } = .ok "hw:0,3" := by
  intro address handset
  have playing : Dormant Sample.card "Voice Call" Rig.playing := by
    intro v active
    cases active
    decide
  have fresh : Dormant Sample.card "Voice Call" .fresh := by
    intro v active
    cases active
  obtain ⟨same, -⟩ := resolve_dormant playing fresh
  have lacking : resolve Sample.card .fresh address = .error (.notFound (.value "PlaybackPCM")) := by
    rfl
  have answered : resolve Sample.card .fresh { address with anchor := some handset } =
      .ok "hw:0,3" := by rfl
  exact ⟨playing, fresh, (same address rfl).1.trans lacking, lacking,
    (same { address with anchor := some handset } rfl).1.trans answered, answered⟩

end UseCase.Lookup
