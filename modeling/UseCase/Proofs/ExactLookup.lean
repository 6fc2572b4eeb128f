import Mathlib.Data.List.Find
import Mathlib.Data.List.MinMax
import Mathlib.Tactic.Common
import UseCase.Proofs.Outcome
import UseCase.Proofs.Reachable
import UseCase.Proofs.Resolution
import UseCase.Recorder
import UseCase.Sample

/-!
# Exact lookups

An exact query consults one layer, `consulted`, and no other. What it may depend on is its `view`:
the defaults of the card, the values of one verb, or what the entities of one verb show, which is
their names, priorities and values and which of them are active in which order.

The main statement `resolve_confined` says that an exact query is answered by its layer or not at
all; that cards and activations with the same view give the same result, whatever else they hold;
and that the query which may go on to other layers finds something whenever the exact one does.
Where a query has an anchor this needs every entity to be listed under its own kind, and failures
may differ by the name of a verb (`misfiled_answered`).
-/

namespace UseCase.Lookup

variable {c c' : Card} {a a' : Activation} {v v' : Verb} {kind : Kind} {way : Entity → Bool}
variable {q : ValueQuery} {anchor : Anchor} {name value : String} {layer : Layer}

/-! ## The layer that is consulted -/

/-- The layer that an exact query consults, about a verb or none. -/
def consultedOf (c : Card) (a : Activation) (q : ValueQuery) (v? : Option Verb) :
    Except Fault Layer :=
  match q.anchor with
  | some anchor =>
    match v? with
    | none => .error (.notFound (.scope anchor.name))
    | some v =>
      match meant? v anchor with
      | some (kind, way) => .ok (.entities (addressed c a v kind way))
      | none => .error (.notFound (.anchor anchor.name v.name))
  | none =>
    match q.verb, v? with
    | .unspecified, _ => .ok (.values c.defaults)
    | _, some v => .ok (.values v.values)
    | _, none => .error (.notFound .activeVerb)

/-- The layer that an exact query consults. -/
def consulted (c : Card) (a : Activation) (q : ValueQuery) : Except Fault Layer := do
  consultedOf c a q (← subject c a q.verb)

/-- The scope of an exact query has what its layer has. -/
lemma exactly_eq (valid : c.Valid) (a : Activation) {q : ValueQuery}
    (filed : q.anchor ≠ none → c.Filed) {sought : Option Target}
    (here : ∀ t, sought = some t → c.verb? t.index = some t.verb) :
    exactly c a sought q =
      Layer.value? q.name <$> consultedOf c a q (sought.map Target.verb) := by
  unfold exactly consultedOf
  cases given : q.anchor with
  | some anchor =>
    cases sought with
    | none => rfl
    | some t =>
      have here := here t rfl
      have filed : t.verb.Filed :=
        filed (given ▸ Option.some_ne_none anchor) t.verb (List.mem_of_getElem? here)
      simp only [require, ok_bind, Option.map_some]
      rw [anchored_eq valid here]
      cases meant? t.verb anchor with
      | none => rfl
      | some found =>
        simp only [pooled_of_filed filed]
        rfl
  | none => cases q.verb <;> cases sought <;> rfl

/-- The answer to a name if a layer has a value for it, and if it lacks one. -/
def answerOf (name : String) : Option String → Except Fault String
  | some value => .ok value
  | none => .error (.notFound (.value name))

/-- The answer that the consulted layer gives to an exact query about a verb or none. -/
def confinedTo (c : Card) (a : Activation) (q : ValueQuery) (v? : Option Verb) :
    Except Fault String := do
  let layer ← consultedOf c a q v?
  answerOf q.name (layer.value? q.name)

/-- An exact query is confined to the layer that it consults about the verb that it means. -/
lemma resolve_exact (valid : c.Valid) (a : Activation) (filed : q.anchor ≠ none → c.Filed)
    (exact : q.exact = true) :
    resolve c a q = subject c a q.verb >>= confinedTo c a q := by
  rw [resolve, exact, subject_eq]
  cases found : target c a q.verb with
  | error f => rfl
  | ok sought =>
    have looked : exactly c a sought q =
        Layer.value? q.name <$> consultedOf c a q (sought.map Target.verb) :=
      exactly_eq valid a filed fun t same => verb?_of_target (same ▸ found)
    change (exactly c a sought q >>= fun found => match found with
      | some value => Except.ok value
      | none => .error (.notFound (.value q.name))) = confinedTo c a q (sought.map Target.verb)
    rw [looked, confinedTo]
    cases consultedOf c a q (sought.map Target.verb) <;> rfl

/-- The answer is a value exactly if one was found. -/
lemma answerOf_eq_ok {found : Option String} :
    answerOf name found = .ok value ↔ found = some value := by
  cases found with
  | none => exact iff_of_false (fun h => by cases h) fun h => by cases h
  | some v => rw [answerOf, Except.ok.injEq, Option.some.injEq]

/-- An exact query is answered by the layer that it consults or not at all. -/
lemma resolve_consulted (valid : c.Valid) (a : Activation) (filed : q.anchor ≠ none → c.Filed)
    (exact : q.exact = true) :
    resolve c a q = consulted c a q >>= fun layer => answerOf q.name (layer.value? q.name) := by
  rw [resolve_exact valid a filed exact, consulted]
  cases subject c a q.verb <;> rfl

/-! ## What an exact query sees -/

/-- What an entity shows to an exact query. -/
structure Traits where
  name : String
  priority : Nat
  values : ValueMap
  deriving DecidableEq, Repr

/-- What an exact query sees of an entity. -/
def traits (e : Entity) : Traits :=
  ⟨e.name, e.priority, e.values⟩

/-- What an exact query may depend on. -/
inductive View where
  | values (map : ValueMap)
  /-- The entities of each kind, and the active ones in order of activation. -/
  | entities (all active : Kind → List Traits)
  /-- There is no verb to look at. -/
  | nothing

/-- What an exact query may depend on, about a verb or none: the defaults if it has neither anchor
nor verb, the values of its verb if it has no anchor, and else the entities of its verb. -/
def viewOf (c : Card) (a : Activation) (q : ValueQuery) (v? : Option Verb) : View :=
  match q.anchor with
  | some _ =>
    match v? with
    | none => .nothing
    | some v =>
      .entities (fun kind => (v.entities kind).map traits) fun kind =>
        (activeOf c a v kind).map traits
  | none =>
    match q.verb, v? with
    | .unspecified, _ => .values c.defaults
    | _, some v => .values v.values
    | _, none => .nothing

/-- What an exact query may depend on. -/
def view (c : Card) (a : Activation) (q : ValueQuery) : View :=
  viewOf c a q (subject c a q.verb).toOption.join

/-- The value in a layer of entities depends on what these show. -/
lemma value?_entities (pool : List Entity) (name : String) :
    (Layer.entities pool).value? name =
      (((pool.map traits).filter fun t => t.values.contains name).argmax Traits.priority).bind
        fun t => t.values.get? name := by
  have shown : (pool.map traits).filter (fun t => t.values.contains name) =
      (pool.filter fun e => e.values.contains name).map traits := List.filter_map
  rw [Layer.value?, shown, ← Ranking.head?_rankBy, ← Ranking.head?_rankBy, ← Ranking.rankBy_map,
    List.head?_map, Option.bind_map]
  rfl

/-- Whether a way addresses an entity depends on the name of the entity. -/
lemma mem_ways (among : way ∈ ways name) : ∃ p : String → Bool, way = fun e => p e.name := by
  simp only [ways, List.mem_cons, List.not_mem_nil, or_false] at among
  obtain rfl | rfl | rfl := among
  · exact ⟨fun n => n == name, rfl⟩
  · exact ⟨fun n => Name.key n == Name.key name, rfl⟩
  · exact ⟨fun n => Name.stemKey n == Name.key name, rfl⟩

/-- Entities that look the same in pairs are addressed in the same way. -/
lemma map_traits_filter (among : way ∈ ways name) {es es' : List Entity}
    (same : es.map traits = es'.map traits) :
    (es.filter way).map traits = (es'.filter way).map traits := by
  obtain ⟨p, rfl⟩ := mem_ways among
  have shown (es : List Entity) : (es.filter fun e => p e.name).map traits =
      (es.map traits).filter fun t => p t.name := by
    rw [List.filter_map]
    rfl
  rw [shown, shown, same]

/-- Some of the entities is addressed if one of those is that look the same. -/
lemma any_of_traits (among : way ∈ ways name) {es es' : List Entity}
    (same : es.map traits = es'.map traits) : es.any way = es'.any way := by
  obtain ⟨p, rfl⟩ := mem_ways among
  have shown (es : List Entity) : es.any (fun e => p e.name) =
      (es.map traits).any fun t => p t.name := by
    rw [List.any_map]
    rfl
  rw [shown, shown, same]

/-- What an anchor means depends on how the entities of the verb look. -/
lemma meant?_congr (all : ∀ kind, (v.entities kind).map traits = (v'.entities kind).map traits)
    (anchor : Anchor) : meant? v anchor = meant? v' anchor := by
  have closest (kind : Kind) : (ways anchor.name).find? (v.entities kind).any =
      (ways anchor.name).find? (v'.entities kind).any :=
    List.find?_congr fun way among => any_of_traits among (all kind)
  simp only [meant?, closest]

/-- An anchor means entities in one of the ways of its name. -/
lemma way_of_meant? (meant : meant? v anchor = some (kind, way)) : way ∈ ways anchor.name := by
  obtain ⟨k, -, found⟩ := List.exists_of_findSome?_eq_some meant
  obtain ⟨w, there, same⟩ := Option.map_eq_some_iff.mp found
  cases same
  exact List.mem_of_find?_eq_some there

/-- What the addressed entities show depends on what all entities and the active ones show. -/
lemma map_traits_addressed (among : way ∈ ways name)
    (all : (v.entities kind).map traits = (v'.entities kind).map traits)
    (active : (activeOf c a v kind).map traits = (activeOf c' a' v' kind).map traits) :
    (addressed c a v kind way).map traits = (addressed c' a' v' kind way).map traits := by
  have active := map_traits_filter among active
  rw [addressed, addressed]
  cases matched : (activeOf c a v kind).filter way with
  | nil =>
    rw [matched, List.map_nil, eq_comm, List.map_eq_nil_iff] at active
    rw [active]
    exact map_traits_filter among all
  | cons first others =>
    rw [matched] at active
    cases matched' : (activeOf c' a' v' kind).filter way with
    | nil =>
      rw [matched'] at active
      cases active
    | cons first' others' => rwa [matched'] at active

/-- What an anchor addresses depends on what the entities show: either it addresses nothing on both
sides, or layers that have the same values. -/
lemma meant?_of_traits (all : ∀ kind, (v.entities kind).map traits = (v'.entities kind).map traits)
    (active : ∀ kind, (activeOf c a v kind).map traits = (activeOf c' a' v' kind).map traits)
    (anchor : Anchor) (name : String) :
    (meant? v anchor = none ∧ meant? v' anchor = none) ∨
    ∃ kind way, meant? v anchor = some (kind, way) ∧ meant? v' anchor = some (kind, way) ∧
      (Layer.entities (addressed c a v kind way)).value? name =
        (Layer.entities (addressed c' a' v' kind way)).value? name := by
  rw [← meant?_congr all anchor]
  cases meant : meant? v anchor with
  | none => exact .inl ⟨rfl, rfl⟩
  | some found =>
    obtain ⟨kind, way⟩ := found
    refine .inr ⟨kind, way, rfl, rfl, ?_⟩
    rw [value?_entities, value?_entities,
      map_traits_addressed (way_of_meant? meant) (all kind) (active kind)]

/-- The anchor of a query addresses nothing in its verb, and the failure names the verb. -/
def Unmatched (c : Card) (a : Activation) (q : ValueQuery) : Prop :=
  ∃ anchor v, q.anchor = some anchor ∧ subject c a q.verb = .ok (some v) ∧
    resolve c a q = .error (.notFound (.anchor anchor.name v.name))

/-- Without an anchor the answer is read off the view. -/
lemma confinedTo_unanchored (anchored : q.anchor = none) (v? : Option Verb) :
    confinedTo c a q v? =
      match viewOf c a q v? with
      | .values map => answerOf q.name (map.get? q.name)
      | _ => .error (.notFound .activeVerb) := by
  unfold confinedTo consultedOf viewOf
  rw [anchored]
  cases q.verb <;> cases v? <;> rfl

/-- With an anchor the answer is that of the entities that it addresses in the verb. -/
lemma confinedTo_anchored (anchored : q.anchor = some anchor) (v : Verb) :
    confinedTo c a q (some v) =
      match meant? v anchor with
      | some (kind, way) =>
        answerOf q.name ((Layer.entities (addressed c a v kind way)).value? q.name)
      | none => .error (.notFound (.anchor anchor.name v.name)) := by
  unfold confinedTo consultedOf
  rw [anchored]
  simp only
  cases meant? v anchor <;> rfl

/-- An anchored query sees all entities of its verb and the active ones. -/
lemma viewOf_anchored (anchored : q.anchor = some anchor) (v : Verb) :
    viewOf c a q (some v) =
      .entities (fun kind => (v.entities kind).map traits) fun kind =>
        (activeOf c a v kind).map traits := by
  rw [viewOf, anchored]

/-- A query about a verb sees something. -/
lemma viewOf_ne_nothing (v : Verb) : viewOf c a q (some v) ≠ .nothing := by
  unfold viewOf
  cases q.anchor with
  | some anchor => exact View.noConfusion
  | none => cases q.verb <;> exact View.noConfusion

/-- There is nothing to see where the verb that is named is missing. -/
lemma viewOf_missing (named : q.verb = .named name) : viewOf c a q none = .nothing := by
  unfold viewOf
  rw [named]
  cases q.anchor <;> rfl

/-- Where views are the same, so are answers, unless the anchor addresses nothing on both sides. -/
lemma confinedTo_of_view {v? v?' : Option Verb}
    (same : viewOf c a q v? = viewOf c' a' q v?') :
    confinedTo c a q v? = confinedTo c' a' q v?' ∨
    ∃ anchor v v', q.anchor = some anchor ∧ v? = some v ∧ v?' = some v' ∧
      confinedTo c a q v? = .error (.notFound (.anchor anchor.name v.name)) ∧
      confinedTo c' a' q v?' = .error (.notFound (.anchor anchor.name v'.name)) := by
  cases anchored : q.anchor with
  | none =>
    rw [confinedTo_unanchored anchored, confinedTo_unanchored anchored, same]
    exact .inl rfl
  | some anchor =>
    cases v? with
    | none =>
      cases v?' with
      | none =>
        unfold confinedTo consultedOf
        rw [anchored]
        exact .inl rfl
      | some v' =>
        rw [viewOf_anchored anchored, viewOf, anchored] at same
        cases same
    | some v =>
      cases v?' with
      | none =>
        rw [viewOf_anchored anchored, viewOf, anchored] at same
        cases same
      | some v' =>
        -- What an anchor means depends on the names in either list, and these are in view.
        rw [viewOf_anchored anchored, viewOf_anchored anchored] at same
        obtain ⟨all, active⟩ := View.entities.inj same
        rw [confinedTo_anchored anchored, confinedTo_anchored anchored]
        rcases meant?_of_traits (congrFun all) (congrFun active) anchor q.name with
          ⟨nothing, nothing'⟩ | ⟨kind, way, meant, meant', same⟩
        · rw [nothing, nothing']
          exact .inr ⟨anchor, v, v', rfl, rfl, rfl, rfl, rfl⟩
        · rw [meant, meant']
          exact .inl (congrArg (answerOf q.name) same)

/-- The verb of a name is there, or else the failure says that it is missing. -/
lemma subject_named (c : Card) (a : Activation) (name : String) :
    (∃ v, subject c a (.named name) = .ok (some v)) ∨
      subject c a (.named name) = .error (.notFound (.verb name)) := by
  rw [subject]
  cases c.verbs.find? fun v => v.name == name with
  | none => exact .inr rfl
  | some v => exact .inl ⟨v, rfl⟩

/-- Where views are the same, so are results, unless the anchor addresses nothing on both sides. -/
lemma resolve_of_view (valid : c.Valid) (filed : q.anchor ≠ none → c.Filed) (valid' : c'.Valid)
    (filed' : q.anchor ≠ none → c'.Filed) (exact : q.exact = true)
    (same : view c a q = view c' a' q) :
    resolve c a q = resolve c' a' q ∨ Unmatched c a q ∧ Unmatched c' a' q := by
  have whole := resolve_exact valid a filed exact
  have whole' := resolve_exact valid' a' filed' exact
  rw [view, view] at same
  have both {v? v?' : Option Verb} (found : subject c a q.verb = .ok v?)
      (found' : subject c' a' q.verb = .ok v?') :
      resolve c a q = resolve c' a' q ∨ Unmatched c a q ∧ Unmatched c' a' q := by
    rw [found, found'] at same
    rw [found, ok_bind] at whole
    rw [found', ok_bind] at whole'
    rcases confinedTo_of_view same with alike | ⟨anchor, v, v', anchored, rfl, rfl, no, no'⟩
    · exact .inl (whole.trans (alike.trans whole'.symm))
    · exact .inr ⟨⟨anchor, v, anchored, found, whole.trans no⟩,
        anchor, v', anchored, found', whole'.trans no'⟩
  cases selector : q.verb with
  | unspecified | current =>
    rw [selector] at both
    exact both rfl rfl
  | named name =>
    rw [selector] at both same whole whole'
    -- A verb that is missing on one side leaves nothing to see there, so it is missing on both.
    rcases subject_named c a name with ⟨v, found⟩ | missing <;>
      rcases subject_named c' a' name with ⟨v', found'⟩ | missing'
    · exact both found found'
    · rw [found, missing'] at same
      exact absurd (same.trans (viewOf_missing selector)) (viewOf_ne_nothing v)
    · rw [missing, found'] at same
      exact absurd (same.symm.trans (viewOf_missing selector)) (viewOf_ne_nothing v')
    · rw [whole, whole', missing, missing']
      exact .inl rfl

/-! ## Results -/

/-- With an anchor the entities that it addresses in a verb are consulted. -/
lemma consulted_anchored (anchored : q.anchor = some anchor) :
    consulted c a q = .ok layer ↔
      ∃ v kind way, subject c a q.verb = .ok (some v) ∧ meant? v anchor = some (kind, way) ∧
        layer = .entities (addressed c a v kind way) := by
  rw [consulted, bind_eq_ok]
  constructor
  · rintro ⟨v?, found, consults⟩
    unfold consultedOf at consults
    rw [anchored] at consults
    cases v? with
    | none => cases consults
    | some v =>
      simp only at consults
      split at consults
      · rename_i kind way meant
        exact ⟨v, kind, way, found, meant, (Except.ok.inj consults).symm⟩
      · cases consults
  · rintro ⟨v, kind, way, found, meant, rfl⟩
    refine ⟨some v, found, ?_⟩
    unfold consultedOf
    rw [anchored]
    simp only [meant]

/-- There is no layer only because something that the query needs is missing. -/
lemma notFound_of_consulted {f : Fault} (failed : consulted c a q = .error f) :
    ∃ what, f = .notFound what := by
  rcases bind_eq_error.mp failed with failed | ⟨v?, -, failed⟩
  · exact notFound_of_subject failed
  · unfold consultedOf at failed
    split at failed
    · split at failed
      · exact ⟨_, (Except.error.inj failed).symm⟩
      · split at failed
        · cases failed
        · exact ⟨_, (Except.error.inj failed).symm⟩
    · split at failed <;> cases failed
      exact ⟨_, rfl⟩

/-- A layer of entities has a value exactly if one of them has it. -/
lemma value?_isSome (pool : List Entity) (name : String) :
    (∃ value, (Layer.entities pool).value? name = some value) ↔
      ∃ e ∈ pool, e.values.contains name = true := by
  rw [Layer.value?]
  cases best : (pool.filter fun e => e.values.contains name).argmax Entity.priority with
  | none =>
    have lacking := List.filter_eq_nil_iff.mp (List.argmax_eq_none.mp best)
    constructor
    · rintro ⟨value, found⟩
      cases found
    · rintro ⟨e, member, has⟩
      exact absurd has (lacking e member)
  | some e =>
    obtain ⟨member, has⟩ := List.mem_filter.mp (List.argmax_mem best)
    exact iff_of_true (Option.isSome_iff_exists.mp has) ⟨e, member, has⟩

/-- The layer that an exact query consults is one of those of the query that goes on, and the first
one if there is an anchor. -/
lemma mem_layers_of_consulted (consults : consulted c a q = .ok layer) :
    ∃ ls, layers c a q = .ok ls ∧ layer ∈ ls ∧ (q.anchor ≠ none → ls.head? = some layer) := by
  obtain ⟨v?, found, consults⟩ := bind_eq_ok.mp consults
  rw [layers, found, ok_bind]
  unfold consultedOf at consults
  unfold layersOf
  cases anchored : q.anchor with
  | some anchor =>
    rw [anchored] at consults
    cases v? with
    | none => cases consults
    | some v =>
      simp only at consults ⊢
      cases meant : meant? v anchor with
      | none =>
        rw [meant] at consults
        cases consults
      | some addressing =>
        rw [meant] at consults
        cases consults
        exact ⟨_, rfl, List.mem_cons_self, fun _ => rfl⟩
  | none =>
    rw [anchored] at consults
    cases v? with
    | none =>
      cases selector : q.verb <;> rw [selector] at consults <;> cases consults
      exact ⟨_, rfl, List.mem_cons_self, fun h => absurd rfl h⟩
    | some v =>
      -- The last two layers are the values of the verb and the defaults in any case.
      have last : layer ∈ [Layer.values v.values, .values c.defaults] := by
        cases selector : q.verb <;> rw [selector] at consults <;> cases consults <;> simp
      simp only
      split
      · exact ⟨_, rfl, List.mem_cons_of_mem _ (List.mem_cons_of_mem _ last), fun h => absurd rfl h⟩
      · exact ⟨_, rfl, last, fun h => absurd rfl h⟩

/-- Where an exact query is answered, so is the query that may go on to other layers, and if there
is an anchor then with the same value. -/
lemma resolve_widened (valid : c.Valid) (filed : q.anchor ≠ none → c.Filed)
    (consults : consulted c a q = .ok layer)
    (has : layer.value? q.name = some value) :
    ∃ value', resolve c a { q with exact := false } = .ok value' ∧
      (q.anchor ≠ none → value' = value) := by
  obtain ⟨ls, layered, member, first⟩ := mem_layers_of_consulted consults
  have there : layers c a { q with exact := false } = .ok ls := layered
  rw [resolve_eq valid a (q := { q with exact := false }) filed rfl, reference, there]
  cases found : ls.findSome? (Layer.value? q.name) with
  | none =>
    have lacking := List.findSome?_eq_none_iff.mp found layer member
    rw [lacking] at has
    cases has
  | some value' =>
    refine ⟨value', by simp only [found], fun anchored => ?_⟩
    obtain ⟨others, rfl⟩ := List.head?_eq_some_iff.mp (first anchored)
    rw [findSome?_layers, has, Option.some_or] at found
    exact (Option.some.inj found).symm

/-- In a valid card, whatever is active, an exact query is answered by the layer that it consults,
and if this lacks the value then something was not found; for a query with an anchor every entity
has to be listed under its own kind. With an anchor it is answered exactly if one of the addressed
entities has the value. A card and an activation that show the same to the query give the same
result, whatever else they hold; only a failure of an anchor that addresses nothing tells them
apart, by the name of the verb. And the query which may go on to other layers is answered as well,
with the same value if there is an anchor. -/
theorem resolve_confined (valid : c.validate = .ok ()) (a : Activation)
    (filed : q.anchor ≠ none → c.Filed) (exact : q.exact = true) :
    (∀ value, resolve c a q = .ok value ↔
      ∃ layer, consulted c a q = .ok layer ∧ layer.value? q.name = some value) ∧
    (∀ f, resolve c a q = .error f → ∃ what, f = .notFound what) ∧
    (∀ anchor, q.anchor = some anchor → ((∃ value, resolve c a q = .ok value) ↔
      ∃ v kind way, subject c a q.verb = .ok (some v) ∧ meant? v anchor = some (kind, way) ∧
        ∃ e ∈ addressed c a v kind way, e.values.contains q.name = true)) ∧
    (∀ c' a', c'.validate = .ok () → (q.anchor ≠ none → c'.Filed) → view c a q = view c' a' q →
      resolve c a q = resolve c' a' q ∨ Unmatched c a q ∧ Unmatched c' a' q) ∧
    ∀ value, resolve c a q = .ok value → ∃ value',
      resolve c a { q with exact := false } = .ok value' ∧ (q.anchor ≠ none → value' = value) := by
  have valid := Card.validate_iff.mp valid
  have answered (value : String) : resolve c a q = .ok value ↔
      ∃ layer, consulted c a q = .ok layer ∧ layer.value? q.name = some value := by
    simp only [resolve_consulted valid a filed exact, bind_eq_ok, answerOf_eq_ok]
  refine ⟨answered, fun f failed => ?_, fun anchor anchored => ?_,
    fun c' a' valid' filed' same =>
      resolve_of_view valid filed (Card.validate_iff.mp valid') filed' exact same,
    fun value found => ?_⟩
  · rw [resolve_consulted valid a filed exact] at failed
    rcases bind_eq_error.mp failed with failed | ⟨layer, -, failed⟩
    · exact notFound_of_consulted failed
    · cases has : layer.value? q.name <;> rw [has] at failed <;> cases failed
      exact ⟨_, rfl⟩
  · simp only [answered, consulted_anchored anchored]
    constructor
    · rintro ⟨value, layer, ⟨v, kind, way, found, meant, rfl⟩, has⟩
      exact ⟨v, kind, way, found, meant, (value?_isSome _ _).mp ⟨value, has⟩⟩
    · rintro ⟨v, kind, way, found, meant, some⟩
      obtain ⟨value, has⟩ := (value?_isSome _ _).mpr some
      exact ⟨value, _, ⟨v, kind, way, found, meant, rfl⟩, has⟩
  · obtain ⟨layer, consults, has⟩ := (answered value).mp found
    exact resolve_widened valid filed consults has

/-- The sample card without the values of the card and its verbs. -/
def bare : Card :=
  { Sample.card with
    defaults := .empty
    verbs := Sample.card.verbs.map fun v => { v with values := .empty } }

/-- What is asked of a device does not depend on the values of its verb and of the card, and it is
not looked for in them. -/
theorem speaker_confined :
    let a : Activation := ⟨some 0, [0], [], true⟩
    let address : ValueQuery := ⟨"PlaybackPCM", some ⟨.any, "Speaker"⟩, .current, true⟩
    let quality : ValueQuery := ⟨"TQ", some ⟨.any, "Speaker"⟩, .current, true⟩
    ValueQuery.parse "=PlaybackPCM/Speaker" = .ok address ∧
      ValueQuery.parse "=TQ/Speaker" = .ok quality ∧
      Sample.card.validate = .ok () ∧ Sample.card.Filed ∧ bare.validate = .ok () ∧ bare.Filed ∧
      view Sample.card a address = view bare a address ∧
      resolve bare a address = .ok "hw:0,0" ∧
      resolve Sample.card a { address with exact := false } = .ok "hw:0,0" ∧
      resolve Sample.card a quality = .error (.notFound (.value "TQ")) := by
  intro a address quality
  have valid : Sample.card.validate = .ok () := by rfl
  have filed : Sample.card.Filed := by decide
  have valid' : bare.validate = .ok () := by rfl
  have filed' : bare.Filed := by decide
  have same : view Sample.card a address = view bare a address := by rfl
  have answered : resolve Sample.card a address = .ok "hw:0,0" := by rfl
  obtain ⟨-, -, -, alike, widened⟩ := resolve_confined valid a (q := address) (fun _ => filed) rfl
  have answered' : resolve bare a address = .ok "hw:0,0" := by
    rcases alike bare a valid' (fun _ => filed') same with alike | ⟨⟨_, _, _, _, failed⟩, _⟩
    · exact alike ▸ answered
    · rw [answered] at failed
      cases failed
  obtain ⟨value, found, agrees⟩ := widened "hw:0,0" answered
  have agrees : value = "hw:0,0" := agrees (Option.some_ne_none _)
  exact ⟨by rfl, by rfl, valid, filed, valid', filed', same, answered', agrees ▸ found, by rfl⟩

/-- A verb whose two modifiers say that they are devices, and two verbs without entities. -/
def misfiled : Card :=
  { Sample.card with
    verbs := [
      { Verb.plain "HiFi" with
        modifiers := [
          Entity.plain .device "Tone 1",
          { Entity.plain .device "Tone 2" with values := ⟨[("TQ", "Tone")]⟩ }] },
      Verb.plain "Voice", Verb.plain "Video"] }

/-- The first of the modifiers was made active. -/
lemma misfiled_reachable : Activation.Reachable misfiled ⟨some 0, [], [0], true⟩ := by
  have entered : Activation.Reachable misfiled ⟨some 0, [], [], true⟩ :=
    Activation.Reachable.fresh.led Recorder.backend (.command (.setVerb "HiFi")) .fresh (by decide)
  exact entered.led Recorder.backend (.command (.enable .modifier "Tone 1")) .fresh (by decide)

/-- In a valid card an active modifier that says it is a device is passed over: of the two that the
anchor addresses only the first one is active, it lacks the value, and the query is answered with
that of the second one. And two verbs of which an exact query sees the same, which is nothing, do
not have the same results: the failure names the verb. -/
theorem misfiled_answered :
    let active : Activation := ⟨some 0, [], [0], true⟩
    let voice : Activation := ⟨some 1, [], [], true⟩
    let video : Activation := ⟨some 2, [], [], true⟩
    let tone : ValueQuery := ⟨"TQ", some ⟨.any, "Tone"⟩, .current, true⟩
    let stem (e : Entity) := Name.stemKey e.name == Name.key "Tone"
    misfiled.validate = .ok () ∧ active.Reachable misfiled ∧ voice.Reachable misfiled ∧
      video.Reachable misfiled ∧
      (∃ v, subject misfiled active .current = .ok (some v) ∧
        (activeOf misfiled active v .modifier).filter stem = [Entity.plain .device "Tone 1"] ∧
        ∀ e ∈ addressed misfiled active v .modifier stem, e.values.contains "TQ" = false) ∧
      resolve misfiled active tone = .ok "Tone" ∧
      view misfiled voice tone = view misfiled video tone ∧
      resolve misfiled voice tone = .error (.notFound (.anchor "Tone" "Voice")) ∧
      resolve misfiled video tone = .error (.notFound (.anchor "Tone" "Video")) := by
  intro active voice video tone stem
  have speaking : voice.Reachable misfiled :=
    Activation.Reachable.fresh.led Recorder.backend (.command (.setVerb "Voice")) .fresh (by decide)
  have watching : video.Reachable misfiled :=
    Activation.Reachable.fresh.led Recorder.backend (.command (.setVerb "Video")) .fresh (by decide)
  exact ⟨by rfl, misfiled_reachable, speaking, watching, ⟨_, rfl, by decide, by decide⟩, by rfl,
    by rfl, by rfl, by rfl⟩

end UseCase.Lookup
