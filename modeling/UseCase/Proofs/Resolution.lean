import Mathlib.Data.List.MinMax
import Mathlib.Tactic.Common
import UseCase.Proofs.Matching
import UseCase.Proofs.Outcome
import UseCase.Proofs.Ranking
import UseCase.Sample

/-!
# Resolving values

A query that is not exact is answered by the first of some layers that has the value. `layers` lists
them for a query, or tells why there are none, and `reference` is the answer of the first one. Both
are in terms of verbs and entities: no positions, no candidates, and no order in which entities are
asked but that of their priorities. The main statement `resolve_eq_reference` says that in a valid
card every query that is not exact is answered by its reference.

A card may be valid although an entity says that it is of another kind than the one under which it
is listed. Then an anchor that addresses it is answered from the `pooled` entities, which are the
`addressed` ones if every entity is listed under its own kind (`pooled_of_filed`).
-/

namespace UseCase.Lookup

variable {c : Card} {a : Activation} {v : Verb} {t : Target} {kind : Kind} {way : Entity → Bool}
variable {name : String}

/-! ## The reference -/

/-- A place where a value can be. -/
inductive Layer where
  /-- Entities that share a value: of those that have it the one of the highest priority counts, and
  the earliest of equal ones. -/
  | entities (pool : List Entity)
  | values (map : ValueMap)

/-- The value that a layer has for a name. -/
def Layer.value? (name : String) : Layer → Option String
  | entities pool =>
    ((pool.filter fun e => e.values.contains name).argmax Entity.priority).bind fun e =>
      e.values.get? name
  | values map => map.get? name

/-- The verb that a selector means: the named one, or else the active one if there is one. -/
def subject (c : Card) (a : Activation) : VerbSelector → Except Fault (Option Verb)
  | .unspecified | .current => .ok (a.activeVerb? c)
  | .named name =>
    match c.verbs.find? fun v => v.name == name with
    | some v => .ok (some v)
    | none => .error (.notFound (.verb name))

/-- The active entities of a verb in order of activation, none if another verb is active. -/
def activeOf (c : Card) (a : Activation) (v : Verb) (kind : Kind) : List Entity :=
  if a.activeVerb? c = some v then a.entities v kind else []

/-- The entities that an anchor addresses: the active ones in order of activation, or all of them in
order of description if none is active. -/
def addressed (c : Card) (a : Activation) (v : Verb) (kind : Kind) (way : Entity → Bool) :
    List Entity :=
  match (activeOf c a v kind).filter way with
  | [] => (v.entities kind).filter way
  | active => active

/-- The active entities that are preferred for an anchor. They are looked for under the kind that
the first addressed one says it has: if that is not the kind under which it is listed, there are
none. -/
def preferred (c : Card) (a : Activation) (v : Verb) (kind : Kind) (way : Entity → Bool) :
    List Entity :=
  match (v.entities kind).filter way with
  | [] => []
  | first :: _ => if first.kind = kind then (activeOf c a v kind).filter way else []

/-- The entities that an anchor is answered from: the preferred ones in order of activation, or all
addressed ones in order of description if there are none. -/
def pooled (c : Card) (a : Activation) (v : Verb) (kind : Kind) (way : Entity → Bool) :
    List Entity :=
  match preferred c a v kind way with
  | [] => (v.entities kind).filter way
  | active => active

/-- The layers of a query about a verb or none, the most specific one first. -/
def layersOf (c : Card) (a : Activation) (q : ValueQuery) : Option Verb → Except Fault (List Layer)
  | none =>
    match q.anchor with
    | some anchor => .error (.notFound (.scope anchor.name))
    | none => .ok [.values c.defaults]
  | some v =>
    let last : List Layer := [.values v.values, .values c.defaults]
    match q.anchor with
    | some anchor =>
      match meant? v anchor with
      | some (kind, way) => .ok (.entities (addressed c a v kind way) :: last)
      | none => .error (.notFound (.anchor anchor.name v.name))
    | none =>
      if isWellKnown q.name then
        .ok (.entities (activeOf c a v .modifier) :: .entities (activeOf c a v .device) :: last)
      else .ok last

/-- The layers of a query. -/
def layers (c : Card) (a : Activation) (q : ValueQuery) : Except Fault (List Layer) := do
  layersOf c a q (← subject c a q.verb)

/-- The answer of the first layer that has the value. -/
def reference (c : Card) (a : Activation) (q : ValueQuery) : Except Fault String :=
  match layers c a q with
  | .error f => .error f
  | .ok layers =>
    match layers.findSome? (Layer.value? q.name) with
    | some value => .ok value
    | none => .error (.notFound (.value q.name))

/-! ## The verb of a query -/

/-- The target of a query is the verb that it means. -/
lemma subject_eq (c : Card) (a : Activation) (selector : VerbSelector) :
    subject c a selector = Option.map Target.verb <$> target c a selector := by
  cases selector with
  | unspecified | current =>
    refine congrArg Except.ok ?_
    rw [Activation.activeVerb?, Option.map_bind]
    refine Option.bind_congr fun i _ => ?_
    rw [Function.comp_apply]
    cases c.verb? i <;> rfl
  | named name =>
    rw [subject, List.find?_eq_bind_findIdx?_getElem?, ← Card.findVerb?, target]
    cases sought : c.findVerb? name with
    | none => rfl
    | some index =>
      obtain ⟨v, found, -⟩ := Card.verb?_of_findVerb? sought
      have there : c.verbs[index]? = some v := found
      simp only [Option.bind_some, there, found]
      rfl

/-- The position of a target is that of its verb. -/
lemma verb?_of_target {selector : VerbSelector} (found : target c a selector = .ok (some t)) :
    c.verb? t.index = some t.verb := by
  have at_index {o : Option Nat}
      (h : (o.bind fun index => (c.verb? index).map fun v => Target.mk index v) = some t) :
      c.verb? t.index = some t.verb := by
    obtain ⟨index, -, there⟩ := Option.bind_eq_some_iff.mp h
    obtain ⟨v, here, rfl⟩ := Option.map_eq_some_iff.mp there
    exact here
  cases selector with
  | unspecified | current => exact at_index (Except.ok.inj found)
  | named name =>
    rw [target] at found
    cases sought : c.findVerb? name with
    | none =>
      rw [sought] at found
      cases found
    | some index =>
      rw [sought] at found
      exact at_index (o := some index) (Except.ok.inj found)

/-- In a valid card the target is at the active position exactly if its verb is the active one. -/
lemma active_iff (valid : c.Valid) (here : c.verb? t.index = some t.verb) :
    a.verb = some t.index ↔ a.activeVerb? c = some t.verb := by
  rw [Activation.activeVerb?]
  constructor
  · intro active
    rw [active, Option.bind_some, here]
  · intro active
    -- Two positions with the same verb would have the same name.
    obtain ⟨i, found, there⟩ := Option.bind_eq_some_iff.mp active
    rw [found, position_unique valid.distinct there here rfl]

/-! ## Active and addressed entities -/

/-- The active entities of a target are those of its verb. -/
lemma entitiesAt_activeIn (valid : c.Valid) (here : c.verb? t.index = some t.verb) (kind : Kind) :
    entitiesAt t kind (activeIn a t kind) = activeOf c a t.verb kind := by
  rw [activeIn, activeOf]
  by_cases active : a.verb = some t.index
  · rw [if_pos active, if_pos ((active_iff valid here).mp active)]
    rfl
  · rw [if_neg active, if_neg fun h => active ((active_iff valid here).mpr h)]
    rfl

/-- The entities at the positions that an anchor addresses are the addressed ones. -/
lemma entitiesAt_filter (t : Target) (kind : Kind) (way : Entity → Bool) (indices : List Nat) :
    entitiesAt t kind (indices.filter (positions way (t.verb.entities kind)).contains) =
      (entitiesAt t kind indices).filter way := by
  rw [entitiesAt, entitiesAt, List.filter_filterMap, List.filterMap_filter]
  refine List.filterMap_congr fun i _ => ?_
  by_cases good : i ∈ positions way (t.verb.entities kind)
  · rw [if_pos (List.contains_iff_mem.mpr good)]
    obtain ⟨e, there, fits⟩ := mem_positions.mp good
    rw [Verb.entity?, there, Option.filter_some_pos fits]
  · rw [if_neg fun h => good (List.contains_iff_mem.mp h)]
    cases there : t.verb.entity? kind i with
    | none => rfl
    | some e =>
      have misses : way e = false :=
        Bool.eq_false_iff.mpr fun fits => good (mem_positions.mpr ⟨e, there, fits⟩)
      rw [Option.filter_some_neg misses]

/-- The active entities that a way addresses are among the entities that it addresses. -/
lemma mem_of_mem_activeOf {e : Entity} (member : e ∈ (activeOf c a v kind).filter way) :
    e ∈ (v.entities kind).filter way := by
  obtain ⟨member, fits⟩ := List.mem_filter.mp member
  refine List.mem_filter.mpr ⟨?_, fits⟩
  rw [activeOf] at member
  split_ifs at member
  · obtain ⟨i, -, there⟩ := List.mem_filterMap.mp member
    exact List.mem_of_getElem? there
  · cases member

/-- Where every entity is listed under its own kind the active entities are preferred. -/
lemma preferred_of_filed (filed : v.Filed) :
    preferred c a v kind way = (activeOf c a v kind).filter way := by
  rw [preferred]
  cases all : (v.entities kind).filter way with
  | nil =>
    refine (List.eq_nil_iff_forall_not_mem.mpr fun e member => ?_).symm
    have member := mem_of_mem_activeOf member
    rw [all] at member
    cases member
  | cons first others =>
    have first : first ∈ (v.entities kind).filter way := all ▸ List.mem_cons_self
    exact if_pos (filed.kind_eq (List.mem_of_mem_filter first))

/-- Where every entity is listed under its own kind an anchor is answered from the addressed
entities. -/
lemma pooled_of_filed (filed : v.Filed) : pooled c a v kind way = addressed c a v kind way := by
  rw [pooled, preferred_of_filed filed, addressed]

/-- The preferred entities are among those that the way addresses. -/
lemma mem_of_mem_preferred {e : Entity} (member : e ∈ preferred c a v kind way) :
    e ∈ (v.entities kind).filter way := by
  rw [preferred] at member
  split at member
  · cases member
  · split_ifs at member
    · exact mem_of_mem_activeOf member
    · cases member

/-- The pool consists of entities that the way addresses. -/
lemma mem_of_mem_pooled {e : Entity} (member : e ∈ pooled c a v kind way) :
    e ∈ (v.entities kind).filter way := by
  rw [pooled] at member
  cases active : preferred c a v kind way with
  | nil => rwa [active] at member
  | cons first others =>
    rw [active] at member
    have member : e ∈ preferred c a v kind way := active ▸ member
    exact mem_of_mem_preferred member

/-- The pool is not empty if the way addresses any entity. -/
lemma pooled_ne_nil (some : (v.entities kind).filter way ≠ []) : pooled c a v kind way ≠ [] := by
  rw [pooled]
  cases preferred c a v kind way with
  | nil => exact some
  | cons first others => exact List.cons_ne_nil first others

/-- Of the positions of some kind those of candidates are left, and none of another kind. -/
lemma filter_has (found : Candidates) (kind : Kind) (indices : List Nat) :
    indices.filter (found.has kind) =
      if kind = found.kind then indices.filter found.indices.contains else [] := by
  split_ifs with own
  · refine List.filter_congr fun i _ => ?_
    rw [Candidates.has, own, beq_self_eq_true, Bool.true_and]
  · refine List.filter_eq_nil_iff.mpr fun i _ => Bool.eq_false_iff.mp ?_
    rw [Candidates.has, beq_eq_false_iff_ne.mpr own, Bool.false_and]

/-- The candidates of an anchor in order of preference: the preferred ones by priority, or all of
them in order of description if there are none. -/
lemma pool_eq (valid : c.Valid) (here : c.verb? t.index = some t.verb) :
    pool a t ⟨kind, positions way (t.verb.entities kind)⟩ =
      match preferred c a t.verb kind way with
      | [] => (t.verb.entities kind).filter way
      | active => Ranking.rank active := by
  have whole : entitiesAt t kind (positions way (t.verb.entities kind)) =
      (t.verb.entities kind).filter way := filterMap_positions way _
  rw [pool, preferred, whole]
  cases (t.verb.entities kind).filter way with
  | nil => rfl
  | cons first others =>
    have active : entitiesAt t first.kind ((activeIn a t first.kind).filter
          (Candidates.has ⟨kind, positions way (t.verb.entities kind)⟩ first.kind)) =
        if first.kind = kind then (activeOf c a t.verb kind).filter way else [] := by
      rw [filter_has]
      split_ifs with own
      · rw [own, entitiesAt_filter, entitiesAt_activeIn valid here]
      · rfl
    exact congrArg (fun active => match active with
      | [] => first :: others
      | active => Ranking.rank active) active

/-- Of the candidates that an anchor has, the one that is selected is the greatest among those of
the pool that have the value. -/
lemma select?_pool (valid : c.Valid) (here : c.verb? t.index = some t.verb) :
    Ranking.select? (pool a t ⟨kind, positions way (t.verb.entities kind)⟩) name =
      ((pooled c a t.verb kind way).filter fun e => e.values.contains name).argmax
        Entity.priority := by
  rw [pool_eq valid here, pooled]
  cases preferred c a t.verb kind way with
  | nil => exact Ranking.select?_eq _ _
  | cons e others =>
    -- The active candidates are ranked twice.
    rw [← Ranking.select?_eq]
    change List.find? _ (Ranking.rankBy _ (Ranking.rankBy _ _)) = List.find? _ (Ranking.rankBy _ _)
    rw [Ranking.rankBy_rankBy]

/-- If all entities of a layer are the same one, the layer has the values of that. -/
lemma value?_of_forall_eq {pool : List Entity} {e : Entity} (some : pool ≠ [])
    (same : ∀ e' ∈ pool, e' = e) : (Layer.entities pool).value? name = e.values.get? name := by
  rw [Layer.value?]
  cases best : (pool.filter fun e => e.values.contains name).argmax Entity.priority with
  | some e' =>
    have member := List.mem_of_mem_filter (List.argmax_mem best)
    rw [Option.bind_some, same e' member]
  | none =>
    obtain ⟨e', member⟩ := List.exists_mem_of_ne_nil pool some
    have lacking := List.filter_eq_nil_iff.mp (List.argmax_eq_none.mp best) e' member
    rw [same e' member, ValueMap.contains, Bool.not_eq_true, Option.isSome_eq_false_iff,
      Option.isNone_iff_eq_none] at lacking
    rw [lacking, Option.bind_none]

/-- The value in an anchor is that of the layer of its pool. -/
lemma anchored_eq (valid : c.Valid) (here : c.verb? t.index = some t.verb) (anchor : Anchor)
    (name : String) :
    anchored a t anchor name =
      match meant? t.verb anchor with
      | some (kind, way) => .ok ((Layer.entities (pooled c a t.verb kind way)).value? name)
      | none => .error (.notFound (.anchor anchor.name t.verb.name)) := by
  have member : t.verb ∈ c.verbs := List.mem_of_getElem? here
  rw [anchored, candidates_eq (valid.verbs t.verb member)]
  cases meant : meant? t.verb anchor with
  | none => rfl
  | some found =>
    obtain ⟨kind, way⟩ := found
    refine congrArg Except.ok ?_
    rw [holder?]
    split
    · rename_i index single
      -- A single candidate is taken without asking whether it has the value or is active.
      have single : positions way (t.verb.entities kind) = [index] := single
      have there : index ∈ positions way (t.verb.entities kind) :=
        single ▸ List.mem_singleton_self _
      obtain ⟨e, found, -⟩ := mem_positions.mp there
      have one : (t.verb.entities kind).filter way = [e] := by
        rw [← filterMap_positions, single, List.filterMap_cons_some found, List.filterMap_nil]
      have some : pooled c a t.verb kind way ≠ [] :=
        pooled_ne_nil (one ▸ List.cons_ne_nil e [])
      have same : ∀ e' ∈ pooled c a t.verb kind way, e' = e := fun e' member =>
        List.mem_singleton.mp (one ▸ mem_of_mem_pooled member)
      rw [value?_of_forall_eq some same, Verb.entity?, found]
      rfl
    · rw [select?_pool valid here]
      rfl

/-- The value that active entities provide is that of their two layers. -/
lemma fromActive_eq (valid : c.Valid) (here : c.verb? t.index = some t.verb) (name : String) :
    fromActive a t name =
      ((Layer.entities (activeOf c a t.verb .modifier)).value? name).or
        ((Layer.entities (activeOf c a t.verb .device)).value? name) := by
  simp only [fromActive, entitiesAt_activeIn valid here, Ranking.select?_eq, Layer.value?]
  cases best : ((activeOf c a t.verb .modifier).filter fun e =>
      e.values.contains name).argmax Entity.priority with
  | none => rfl
  | some e =>
    -- A modifier that was selected has the value, so that no device is asked.
    have has := (List.mem_filter.mp (List.argmax_mem best)).2
    obtain ⟨value, found⟩ := Option.isSome_iff_exists.mp has
    rw [Option.some_or, Option.bind_some, found, Option.some_or]

/-! ## Resolution -/

/-- The first of some layers that has a value is the first one or else one of the others. -/
lemma findSome?_layers (layer : Layer) (others : List Layer) :
    (layer :: others).findSome? (Layer.value? name) =
      (layer.value? name).or (others.findSome? (Layer.value? name)) := by
  rw [List.findSome?_cons]
  cases layer.value? name <;> rfl

/-- The value in the verb or the defaults is that of the last two layers. -/
lemma fromVerb_eq (t : Target) (name : String) :
    fromVerb c (some t) name =
      [Layer.values t.verb.values, .values c.defaults].findSome? (Layer.value? name) := by
  rw [findSome?_layers, findSome?_layers, List.findSome?_nil, Option.or_none]
  rfl

/-- The cascade finds what the first layer has that has the value. -/
lemma cascade_eq (valid : c.Valid) (a : Activation) {q : ValueQuery}
    (filed : q.anchor ≠ none → c.Filed) {sought : Option Target}
    (here : ∀ t, sought = some t → c.verb? t.index = some t.verb) :
    cascade c a sought q =
      List.findSome? (Layer.value? q.name) <$> layersOf c a q (sought.map Target.verb) := by
  unfold cascade layersOf
  cases sought with
  | none =>
    cases q.anchor with
    | some anchor => rfl
    | none =>
      refine congrArg Except.ok ?_
      rw [findSome?_layers, List.findSome?_nil, Option.or_none]
      rfl
  | some t =>
    have here := here t rfl
    have last := fromVerb_eq (c := c) t q.name
    cases given : q.anchor with
    | some anchor =>
      have filed : t.verb.Filed :=
        filed (given ▸ Option.some_ne_none anchor) t.verb (List.mem_of_getElem? here)
      simp only [require, Option.map_some]
      -- The verb and the defaults come last, whether or not the anchor means anything that has it.
      change (do
        let value ← anchored a t anchor q.name
        return value.or (fromVerb c (some t) q.name)) = _
      rw [anchored_eq valid here]
      cases meant? t.verb anchor with
      | none => rfl
      | some found =>
        refine congrArg Except.ok ?_
        rw [findSome?_layers, last, pooled_of_filed filed]
    | none =>
      simp only [Option.map_some]
      cases isWellKnown q.name with
      | true =>
        refine congrArg Except.ok ?_
        rw [findSome?_layers, findSome?_layers, if_pos rfl, fromActive_eq valid here, last,
          Option.or_assoc]
      | false =>
        refine congrArg Except.ok ?_
        rw [if_neg Bool.false_ne_true, last, Option.none_or]

/-- A query that is not exact is answered by its reference. -/
lemma resolve_eq (valid : c.Valid) (a : Activation) {q : ValueQuery}
    (filed : q.anchor ≠ none → c.Filed) (cascading : q.exact = false) :
    resolve c a q = reference c a q := by
  rw [resolve, reference, cascading]
  cases found : target c a q.verb with
  | error f =>
    rw [layers, subject_eq, found]
    rfl
  | ok sought =>
    have looked : cascade c a sought q =
        List.findSome? (Layer.value? q.name) <$> layersOf c a q (sought.map Target.verb) :=
      cascade_eq valid a filed fun t same => verb?_of_target (same ▸ found)
    have layered : layers c a q = layersOf c a q (sought.map Target.verb) := by
      rw [layers, subject_eq, found]
      rfl
    rw [layered]
    change (cascade c a sought q >>= fun found => match found with
      | some value => Except.ok value
      | none => .error (.notFound (.value q.name))) = _
    rw [looked]
    cases layersOf c a q (sought.map Target.verb) <;> rfl

/-- There is no answer to which verb is meant only because the named one is missing. -/
lemma notFound_of_subject {selector : VerbSelector} {f : Fault}
    (failed : subject c a selector = .error f) : ∃ what, f = .notFound what := by
  unfold subject at failed
  split at failed
  · cases failed
  · cases failed
  · split at failed <;> cases failed
    exact ⟨_, rfl⟩

/-- There are no layers only because something that the query needs is missing. -/
lemma notFound_of_layers {q : ValueQuery} {f : Fault} (failed : layers c a q = .error f) :
    ∃ what, f = .notFound what := by
  rcases bind_eq_error.mp failed with failed | ⟨sought, -, failed⟩
  · exact notFound_of_subject failed
  · unfold layersOf at failed
    split at failed
    · split at failed <;> cases failed
      exact ⟨_, rfl⟩
    · simp only at failed
      split at failed
      · split at failed <;> cases failed
        exact ⟨_, rfl⟩
      · split_ifs at failed

/-- In a valid card every query that is not exact is answered by its reference, whatever is active;
for a query with an anchor every entity has to be listed under its own kind. If it fails then
something was not found; and a query that has layers fails exactly if all of them lack the value. -/
theorem resolve_eq_reference (valid : c.validate = .ok ()) (a : Activation) {q : ValueQuery}
    (filed : q.anchor ≠ none → c.Filed) (cascading : q.exact = false) :
    resolve c a q = reference c a q ∧
    (∀ f, resolve c a q = .error f → ∃ what, f = .notFound what) ∧
    ∀ ls, layers c a q = .ok ls →
      ((∃ f, resolve c a q = .error f) ↔ ∀ layer ∈ ls, layer.value? q.name = none) := by
  have same := resolve_eq (Card.validate_iff.mp valid) a filed cascading
  refine ⟨same, fun f failed => ?_, fun ls layered => ?_⟩
  · rw [same, reference] at failed
    cases layered : layers c a q with
    | error g =>
      rw [layered] at failed
      cases failed
      exact notFound_of_layers layered
    | ok ls =>
      simp only [layered] at failed
      split at failed <;> cases failed
      exact ⟨_, rfl⟩
  · simp only [same, reference, layered, ← List.findSome?_eq_none_iff]
    cases ls.findSome? (Layer.value? q.name) with
    | some value => exact iff_of_false (fun ⟨f, failed⟩ => by cases failed) (by simp)
    | none => exact iff_of_true ⟨_, rfl⟩ rfl

/-- A well-known name is answered by the modifier that is active, though the device has a value too
and is active for longer; an unknown one in an anchor by the defaults of the card. -/
theorem reference_of_sample :
    let active : Activation := ⟨some 0, [0], [0], true⟩
    let wellKnown : ValueQuery := ⟨"PlaybackPCM", none, .unspecified, false⟩
    let anchored : ValueQuery := ⟨"PlaybackCTL", some ⟨.any, "Mic"⟩, .named "HiFi", false⟩
    Sample.card.validate = .ok () ∧ Sample.card.Filed ∧
      resolve Sample.card active wellKnown = .ok "hw:0,5" ∧
      resolve Sample.card active anchored = .ok "hw:0" := by
  intro active wellKnown anchored
  have valid : Sample.card.validate = .ok () := by rfl
  have filed : Sample.card.Filed := by decide
  refine ⟨valid, filed, ?_, ?_⟩
  · exact (resolve_eq_reference valid active (q := wellKnown) (fun _ => filed) rfl).1.trans (by rfl)
  · exact (resolve_eq_reference valid active (q := anchored) (fun _ => filed) rfl).1.trans (by rfl)

end UseCase.Lookup
