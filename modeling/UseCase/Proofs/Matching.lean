import Mathlib.Data.List.Nodup
import Mathlib.Data.List.Perm.Basic
import Mathlib.Tactic.Common
import UseCase.Lookup
import UseCase.Proofs.Card

/-!
# Matching anchors

The lookup keeps the entities that an anchor matches as positions. `meant?` says in terms of the
entities alone what an anchor means: a kind, and a way in which a name addresses an entity of this
kind. `candidates_eq` says that the candidates are the positions of the entities that are so
addressed. For the exact way this needs a valid verb, in which no name occurs twice.
-/

namespace UseCase.Lookup

variable {v : Verb} {kind : Kind} {entities : List Entity} {p : Entity → Bool} {name : String}

/-! ## Positions -/

/-- The positions of the entities that satisfy a condition are those at which one is. -/
lemma mem_positions {i : Nat} : i ∈ positions p entities ↔ ∃ e, entities[i]? = some e ∧ p e := by
  rw [positions, List.mem_map]
  constructor
  · rintro ⟨⟨e, j⟩, member, rfl⟩
    obtain ⟨there, good⟩ := List.mem_filter.mp member
    exact ⟨e, List.mk_mem_zipIdx_iff_getElem?.mp there, good⟩
  · rintro ⟨e, there, good⟩
    exact ⟨(e, i), List.mem_filter.mpr ⟨List.mk_mem_zipIdx_iff_getElem?.mpr there, good⟩, rfl⟩

/-- No position is among those of a property exactly if no entity has it. -/
lemma positions_eq_nil : positions p entities = [] ↔ entities.any p = false := by
  rw [positions, List.map_eq_nil_iff, List.filter_eq_nil_iff, List.any_eq_false]
  constructor
  · intro none e member
    obtain ⟨i, there⟩ := List.getElem?_of_mem member
    exact none (e, i) (List.mk_mem_zipIdx_iff_getElem?.mpr there)
  · rintro none ⟨e, i⟩ member
    exact none e (List.mem_of_getElem? (List.mk_mem_zipIdx_iff_getElem?.mp member))

/-- No position is told twice. -/
lemma positions_nodup (p : Entity → Bool) (entities : List Entity) :
    (positions p entities).Nodup := by
  have all : (entities.zipIdx.map Prod.snd).Nodup := by
    rw [List.zipIdx_map_snd]
    exact List.nodup_range'
  exact all.sublist (List.filter_sublist.map Prod.snd)

/-- The entities at the positions are those that satisfy the condition, in order. -/
lemma filterMap_positions (p : Entity → Bool) (entities : List Entity) :
    (positions p entities).filterMap (fun i => entities[i]?) = entities.filter p := by
  have back : ∀ x ∈ entities.zipIdx.filter (fun x => p x.1), entities[x.2]? = some x.1 := by
    rintro ⟨e, i⟩ member
    exact List.mk_mem_zipIdx_iff_getElem?.mp (List.mem_of_mem_filter member)
  calc (positions p entities).filterMap (fun i => entities[i]?)
    _ = (entities.zipIdx.filter fun x => p x.1).filterMap fun x => entities[x.2]? :=
      List.filterMap_map
    _ = (entities.zipIdx.filter fun x => p x.1).filterMap fun x => some x.1 :=
      List.filterMap_congr back
    _ = (entities.zipIdx.filter fun x => p x.1).map Prod.fst :=
      congrFun List.filterMap_eq_map _
    _ = (entities.zipIdx.map Prod.fst).filter p := List.filter_map.symm
    _ = entities.filter p := by rw [List.zipIdx_map_fst]

/-- Where names are different the position of a name is the only one. -/
lemma positions_name (distinct : (entities.map Entity.name).Nodup) {index : Nat}
    (found : entities.findIdx? (fun e => e.name == name) = some index) :
    positions (fun e => e.name == name) entities = [index] := by
  obtain ⟨inside, named, -⟩ := List.findIdx?_eq_some_iff_getElem.mp found
  refine List.perm_singleton.mp ((List.perm_ext_iff_of_nodup (positions_nodup _ _)
    (List.nodup_singleton index)).mpr fun i => ?_)
  rw [mem_positions, List.mem_singleton]
  constructor
  · rintro ⟨e, there, same⟩
    refine position_unique distinct there (List.getElem?_eq_getElem inside) ?_
    exact (beq_iff_eq.mp same).trans (beq_iff_eq.mp named).symm
  · rintro rfl
    exact ⟨entities[i], List.getElem?_eq_getElem inside, named⟩

/-! ## What an anchor means -/

/-- The ways in which a name addresses an entity, the closest first: it is the name of the entity,
it differs in blanks only, or it differs in blanks only from the stem. -/
def ways (name : String) : List (Entity → Bool) :=
  [fun e => e.name == name, fun e => Name.key e.name == Name.key name,
    fun e => Name.stemKey e.name == Name.key name]

/-- What an anchor means: the first kind with an entity that it addresses in any way, and the
closest way in which it addresses one of them. -/
def meant? (v : Verb) (anchor : Anchor) : Option (Kind × (Entity → Bool)) :=
  (kinds anchor.kind).findSome? fun kind =>
    ((ways anchor.name).find? (v.entities kind).any).map fun way => (kind, way)

/-- The positions that a name addresses are those of the closest way. -/
lemma matching_eq (distinct : (entities.map Entity.name).Nodup) (name : String) :
    matching entities name =
      match (ways name).find? entities.any with
      | some way => positions way entities
      | none => [] := by
  rw [matching, ways, List.find?_cons]
  cases exact : entities.findIdx? fun e => e.name == name with
  | some index =>
    have some : entities.any (fun e => e.name == name) = true := by
      rw [List.any_eq_true]
      obtain ⟨inside, named, -⟩ := List.findIdx?_eq_some_iff_getElem.mp exact
      exact ⟨entities[index], List.getElem_mem inside, named⟩
    rw [some]
    exact (positions_name distinct exact).symm
  | none =>
    have none : entities.any (fun e => e.name == name) = false := by
      rw [List.any_eq_false]
      exact fun e member =>
        Bool.eq_false_iff.mp (List.findIdx?_eq_none_iff.mp exact e member)
    rw [none, List.find?_cons]
    -- Of the two other ways the first that has positions counts, or else the last with none.
    cases spelled : entities.any fun e => Name.key e.name == Name.key name with
    | true =>
      cases positions : positions (fun e => Name.key e.name == Name.key name) entities with
      | nil =>
        rw [positions_eq_nil.mp positions] at spelled
        cases spelled
      | cons i others => simp only [positions]
    | false =>
      simp only [positions_eq_nil.mpr spelled]
      cases stemmed : entities.any fun e => Name.stemKey e.name == Name.key name with
      | true => simp only [List.find?_cons, stemmed]
      | false => simp only [List.find?_cons, stemmed, List.find?_nil, positions_eq_nil.mpr stemmed]

/-- The candidates of an anchor are the positions of what it means. -/
lemma candidates_eq (valid : v.Valid) (anchor : Anchor) :
    candidates v anchor =
      match meant? v anchor with
      | some (kind, way) => .ok ⟨kind, positions way (v.entities kind)⟩
      | none => .error (.notFound (.anchor anchor.name v.name)) := by
  have among (ks : List Kind) : candidatesAmong v anchor.name ks =
      (ks.findSome? fun kind =>
        ((ways anchor.name).find? (v.entities kind).any).map fun way => (kind, way)).map
          fun (kind, way) => ⟨kind, positions way (v.entities kind)⟩ := by
    induction ks with
    | nil => rfl
    | cons kind rest ih =>
      rw [candidatesAmong, matching_eq (valid.distinct kind), List.findSome?_cons]
      cases found : (ways anchor.name).find? (v.entities kind).any with
      | none => exact ih
      | some way =>
        cases there : positions way (v.entities kind) with
        | nil =>
          have some := List.find?_some found
          rw [positions_eq_nil.mp there] at some
          cases some
        | cons i others => simp [there]
  rw [candidates, among, ← meant?]
  cases meant? v anchor with
  | none => rfl
  | some found => rfl

end UseCase.Lookup
