import Mathlib.Data.List.Induction
import Mathlib.Data.List.Nodup
import Mathlib.Tactic.Common
import UseCase.ValueMap

/-!
# What value maps hold

A name that is new to a map comes in last, and a name that is there keeps its place. So a map that
is built by insertions has every name once, in the order in which the names first came in, and with
the value that came in last (`Holds`). The main statement is `Built.in_order`. Pairs with different
names are kept as they are (`entries_ofList`).
-/

namespace UseCase.ValueMap

variable {name other value : String} {entries pairs : List (String × String)} {m : ValueMap}

/-! ## One insertion -/

/-- A new name is put behind the others. -/
lemma put_of_not_mem (new : name ∉ entries.map Prod.fst) :
    put name value entries = entries ++ [(name, value)] := by
  induction entries with
  | nil => rfl
  | cons entry rest ih =>
    obtain ⟨n, v⟩ := entry
    rw [List.map_cons, List.mem_cons, not_or] at new
    obtain ⟨differs, new⟩ := new
    rw [put, if_neg (Ne.symm differs), ih new, List.cons_append]

/-- A name that was there stays at its place. -/
lemma names_put_of_mem (old : name ∈ entries.map Prod.fst) :
    (put name value entries).map Prod.fst = entries.map Prod.fst := by
  induction entries with
  | nil => cases old
  | cons entry rest ih =>
    obtain ⟨n, v⟩ := entry
    rw [put]
    split
    · rfl
    · rename_i differs
      have old : name ∈ rest.map Prod.fst :=
        (List.mem_cons.mp old).resolve_left (Ne.symm differs)
      rw [List.map_cons, List.map_cons, ih old]

/-- All names keep their places, and a new one comes in last. -/
lemma names_insert (m : ValueMap) (name value : String) :
    (m.insert name value).names = if name ∈ m.names then m.names else m.names ++ [name] := by
  unfold names insert
  split
  · rename_i old
    exact names_put_of_mem old
  · rename_i new
    rw [put_of_not_mem new, List.map_append]
    rfl

/-- The value that was inserted last is the one of its name. -/
lemma get?_insert_self (m : ValueMap) (name value : String) :
    (m.insert name value).get? name = some value := by
  obtain ⟨entries⟩ := m
  unfold get? insert
  induction entries with
  | nil => simp [put]
  | cons entry rest ih =>
    obtain ⟨n, v⟩ := entry
    by_cases same : n = name
    · simp [put, same]
    · simpa [put, same] using ih

/-- Inserting leaves the values of other names. -/
lemma get?_insert_of_ne (differs : other ≠ name) (m : ValueMap) (value : String) :
    (m.insert name value).get? other = m.get? other := by
  obtain ⟨entries⟩ := m
  unfold get? insert
  induction entries with
  | nil => simp [put, Ne.symm differs]
  | cons entry rest ih =>
    obtain ⟨n, v⟩ := entry
    by_cases same : n = name
    · simp [put, same, Ne.symm differs]
    · by_cases here : n = other
      · simp [put, here, differs]
      · simpa [put, same, here] using ih

/-- In a map with different names every entry is found. -/
lemma mem_entries (distinct : m.names.Nodup) :
    (name, value) ∈ m.entries ↔ m.get? name = some value := by
  rw [get?, Option.map_eq_some_iff]
  constructor
  · intro member
    cases found : m.entries.find? fun entry => entry.1 == name with
    | none =>
      have none := List.find?_eq_none.mp found (name, value) member
      exact absurd (beq_self_eq_true name) none
    | some entry =>
      have named := List.find?_some found
      have same := List.inj_on_of_nodup_map distinct (List.mem_of_find?_eq_some found) member
        (beq_iff_eq.mp named)
      exact ⟨entry, rfl, congrArg Prod.snd same⟩
  · rintro ⟨⟨n, v⟩, found, rfl⟩
    have named := List.find?_some found
    obtain rfl : n = name := beq_iff_eq.mp named
    exact List.mem_of_find?_eq_some found

/-- A map has no value for a name that is not in it. -/
lemma get?_eq_none : m.get? name = none ↔ name ∉ m.names := by
  rw [get?, Option.map_eq_none_iff, List.find?_eq_none, names, List.mem_map]
  constructor
  · rintro none ⟨entry, member, rfl⟩
    exact none entry member (beq_self_eq_true entry.1)
  · intro absent entry member named
    exact absent ⟨entry, member, beq_iff_eq.mp named⟩

/-! ## Sequences of insertions -/

/-- The last of some pairs is inserted into what the others give. -/
lemma ofList_concat (pairs : List (String × String)) (name value : String) :
    ofList (pairs ++ [(name, value)]) = (ofList pairs).insert name value := by
  rw [ofList, List.foldl_append]
  rfl

/-- Pairs with different names are kept as they are. -/
lemma entries_ofList (distinct : (pairs.map Prod.fst).Nodup) : (ofList pairs).entries = pairs := by
  induction pairs using List.reverseRecOn with
  | nil => rfl
  | append_singleton pairs pair ih =>
    obtain ⟨name, value⟩ := pair
    rw [List.map_append, List.nodup_append'] at distinct
    obtain ⟨distinct, -, disjoint⟩ := distinct
    have new : name ∉ pairs.map Prod.fst := fun member =>
      disjoint member (List.mem_singleton_self name)
    have kept : (ofList pairs).entries = pairs := ih distinct
    rw [ofList_concat, insert, kept, put_of_not_mem new]

/-- The maps that come from inserting pairs, one after the other or as a list. -/
inductive Built : List (String × String) → ValueMap → Prop
  | empty : Built [] .empty
  | collected (pairs : List (String × String)) : Built pairs (.ofList pairs)
  | inserted {pairs : List (String × String)} {m : ValueMap} (name value : String) :
    Built pairs m → Built (pairs ++ [(name, value)]) (m.insert name value)

/-- What a map holds after some pairs were inserted: their names, by their first places among the
pairs, with the values that came last. -/
structure Holds (pairs : List (String × String)) (m : ValueMap) : Prop where
  mem_names : ∀ name, name ∈ m.names ↔ name ∈ pairs.map Prod.fst
  ordered : m.names.Pairwise fun earlier later =>
    (pairs.map Prod.fst).idxOf earlier < (pairs.map Prod.fst).idxOf later
  get?_eq : ∀ name, m.get? name = pairs.reverse.lookup name

/-- The empty map holds no pairs. -/
lemma Holds.empty : Holds [] .empty where
  mem_names _ := Iff.rfl
  ordered := .nil
  get?_eq _ := rfl

/-- A map that holds some pairs holds one more after it was inserted. -/
lemma Holds.inserted (holds : Holds pairs m) (name value : String) :
    Holds (pairs ++ [(name, value)]) (m.insert name value) where
  mem_names other := by
    rw [names_insert, List.map_append, List.mem_append, ← holds.mem_names, List.map_singleton,
      List.mem_singleton]
    split
    · rename_i old
      refine (or_iff_left_of_imp ?_).symm
      rintro rfl
      exact old
    · rw [List.mem_append, List.mem_singleton]
  ordered := by
    -- What was inserted before has its first place among the pairs before.
    have earlier {n : String} (old : n ∈ m.names) :
        ((pairs ++ [(name, value)]).map Prod.fst).idxOf n = (pairs.map Prod.fst).idxOf n := by
      rw [List.map_append, List.idxOf_append_of_mem ((holds.mem_names n).mp old)]
    have kept : m.names.Pairwise fun first second =>
        ((pairs ++ [(name, value)]).map Prod.fst).idxOf first <
          ((pairs ++ [(name, value)]).map Prod.fst).idxOf second := by
      refine holds.ordered.imp_of_mem ?_
      intro first second old old' before
      rwa [earlier old, earlier old']
    rw [names_insert]
    split
    · exact kept
    · rename_i new
      refine List.pairwise_append.mpr ⟨kept, List.pairwise_singleton _ _, ?_⟩
      intro first old second last
      obtain rfl := List.mem_singleton.mp last
      have absent : second ∉ pairs.map Prod.fst := fun member =>
        new ((holds.mem_names second).mpr member)
      rw [earlier old, List.map_append, List.idxOf_append_of_notMem absent]
      have inside := List.idxOf_lt_length_of_mem ((holds.mem_names first).mp old)
      exact Nat.lt_of_lt_of_le inside (Nat.le_add_right _ _)
  get?_eq other := by
    rw [List.reverse_append, List.reverse_singleton, List.singleton_append, List.lookup_cons]
    by_cases same : other = name
    · rw [same, get?_insert_self, beq_self_eq_true]
    · rw [get?_insert_of_ne same, holds.get?_eq, beq_false_of_ne same]

/-- A map that is made of pairs holds them. -/
lemma holds_ofList (pairs : List (String × String)) : Holds pairs (.ofList pairs) := by
  induction pairs using List.reverseRecOn with
  | nil => exact .empty
  | append_singleton pairs pair ih =>
    rw [ofList_concat]
    exact ih.inserted pair.1 pair.2

/-- A map holds the pairs from which it was built. -/
lemma Built.holds (built : Built pairs m) : Holds pairs m := by
  induction built with
  | empty => exact .empty
  | collected pairs => exact holds_ofList pairs
  | inserted name value _ ih => exact ih.inserted name value

/-- The names of a map that holds pairs do not repeat. -/
lemma Holds.distinct (holds : Holds pairs m) : m.names.Nodup := by
  refine holds.ordered.imp ?_
  rintro earlier _ before rfl
  exact Nat.lt_irrefl _ before

/-- The last pair of some name among some pairs. -/
inductive Latest (name value : String) : List (String × String) → Prop
  | intro (front : List (String × String)) {back : List (String × String)} :
    name ∉ back.map Prod.fst → Latest name value (front ++ (name, value) :: back)

/-- The last of the pairs with a name has the latest value. -/
lemma lookup_reverse_eq_some :
    pairs.reverse.lookup name = some value ↔ Latest name value pairs := by
  rw [List.lookup_eq_some_iff]
  constructor
  · rintro ⟨later, earlier, reversed, differ⟩
    obtain rfl : pairs = earlier.reverse ++ (name, value) :: later.reverse := by
      rw [← List.reverse_inj, reversed]
      simp
    refine .intro earlier.reverse ?_
    rw [List.map_reverse, List.mem_reverse, List.mem_map]
    rintro ⟨entry, member, rfl⟩
    exact bne_iff_ne.mp (differ entry member) rfl
  · rintro ⟨front, absent⟩
    rename_i back
    refine ⟨back.reverse, front.reverse, by simp, ?_⟩
    intro entry member
    refine bne_iff_ne.mpr ?_
    rintro rfl
    exact absent (List.mem_map_of_mem (List.mem_reverse.mp member))

/-- A map that is built by insertions has each of the inserted names once, in the order of their
first insertions, and with it the value of the last one. A further insertion gives a name its value,
leaves the values of all other names as they are and every name in its place, and puts a new name
behind them. -/
theorem Built.in_order (built : Built pairs m) :
    m.names.Nodup ∧
    (∀ name, name ∈ m.names ↔ name ∈ pairs.map Prod.fst) ∧
    (m.names.Pairwise fun earlier later =>
      (pairs.map Prod.fst).idxOf earlier < (pairs.map Prod.fst).idxOf later) ∧
    (∀ name value, (name, value) ∈ m.entries ↔ m.get? name = some value) ∧
    (∀ name value, m.get? name = some value ↔ Latest name value pairs) ∧
    (∀ name, m.get? name = none ↔ name ∉ pairs.map Prod.fst) ∧
    ∀ name value,
      (m.insert name value).get? name = some value ∧
      (∀ other, other ≠ name → (m.insert name value).get? other = m.get? other) ∧
      (m.insert name value).names = if name ∈ m.names then m.names else m.names ++ [name] := by
  have holds := built.holds
  refine ⟨holds.distinct, holds.mem_names, holds.ordered, fun name value =>
    mem_entries holds.distinct, fun name value => ?_, fun name => ?_, fun name value =>
    ⟨get?_insert_self m name value, fun other differs => get?_insert_of_ne differs m value,
      names_insert m name value⟩⟩
  · rw [holds.get?_eq, lookup_reverse_eq_some]
  · rw [get?_eq_none, holds.mem_names]

/-- A value that is given again replaces the first one in place. -/
theorem in_order_of_pcm :
    let pairs := [("PlaybackPCM", "hw:0,0"), ("CapturePCM", "hw:0,1"), ("PlaybackPCM", "hw:0,2")]
    let m := ((ofList [("PlaybackPCM", "hw:0,0")]).insert "CapturePCM" "hw:0,1").insert
      "PlaybackPCM" "hw:0,2"
    Built pairs m ∧ m.names = ["PlaybackPCM", "CapturePCM"] ∧ m.names.Nodup ∧
      Latest "PlaybackPCM" "hw:0,2" pairs ∧ m.get? "PlaybackPCM" = some "hw:0,2" ∧
      m.get? "CaptureCTL" = none ∧
      (m.insert "CaptureCTL" "hw:0").get? "PlaybackPCM" = m.get? "PlaybackPCM" := by
  intro pairs m
  have first := Built.collected [("PlaybackPCM", "hw:0,0")]
  have built : Built pairs m :=
    (first.inserted "CapturePCM" "hw:0,1").inserted "PlaybackPCM" "hw:0,2"
  have latest : Latest "PlaybackPCM" "hw:0,2" pairs := .intro (pairs.take 2) (by decide)
  obtain ⟨distinct, -, -, -, given, absent, further⟩ := Built.in_order built
  have kept := (further "CaptureCTL" "hw:0").2.1 "PlaybackPCM" (by decide)
  exact ⟨built, by decide, distinct, latest, (given _ _).mpr latest,
    (absent "CaptureCTL").mpr (by decide), kept⟩

end UseCase.ValueMap
