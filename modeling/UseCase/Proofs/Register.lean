import Mathlib.Data.List.Sort
import Mathlib.Tactic.Common
import UseCase.Register

/-!
# What registers hold

A register is known by what it answers to each name: the last value that the name was given. Two
registers with the same names list them in the same order.
-/

namespace UseCase.Register

variable {α : Type} {r r' : Register α} {name other : String} {value : α}

/-- What was put is found under its name, and the others under theirs. -/
lemma find?_put (name other : String) (value : α) (entries : List (String × α)) :
    (put name value entries).find? (fun e => e.1 == other) =
      if name = other then some (name, value) else entries.find? fun e => e.1 == other := by
  induction entries with
  | nil => by_cases same : name = other <;> simp [put, same]
  | cons e rest ih =>
    obtain ⟨n, v⟩ := e
    rw [put]
    by_cases here : n = name
    · subst here
      by_cases same : n = other <;> simp [same]
    · rw [if_neg here]
      by_cases earlier : Text.before name n
      · rw [if_pos earlier]
        by_cases same : name = other
        · simp [same]
        · rw [if_neg same, List.find?_cons_of_neg (by simpa using same)]
      · by_cases found : n = other
        · subst found
          simp [earlier, Ne.symm here]
        · simpa [earlier, found] using ih

/-- A name has the value that it was given last. -/
lemma get?_insert (r : Register α) (name other : String) (value : α) :
    (r.insert name value).get? other = if name = other then some value else r.get? other := by
  rw [get?, get?, insert, find?_put]
  split_ifs <;> rfl

/-- The empty register has no values. -/
lemma get?_empty (name : String) : (empty : Register α).get? name = none := rfl

/-- The names of a register are all different, so an entry is what its name answers. -/
lemma mem_entries : (name, value) ∈ r.entries ↔ r.get? name = some value := by
  obtain ⟨entries, ordered⟩ := r
  rw [get?]
  induction entries with
  | nil => simp
  | cons e rest ih =>
    obtain ⟨n, v⟩ := e
    obtain ⟨first, tail⟩ := List.pairwise_cons.mp ordered
    rw [List.mem_cons]
    by_cases here : n = name
    · subst here
      have alone : (n, value) ∉ rest := fun member =>
        Bool.false_ne_true ((Text.isOrder_before.irrefl n).symm.trans (first _ member))
      simp [alone, eq_comm]
    · simpa [here, Ne.symm here] using ih tail

/-- The names are those that the register contains. -/
lemma mem_names : name ∈ r.names ↔ r.contains name := by
  rw [names, contains, Option.isSome_iff_exists, List.mem_map]
  constructor
  · rintro ⟨⟨n, value⟩, member, rfl⟩
    exact ⟨value, mem_entries.mp member⟩
  · rintro ⟨value, found⟩
    exact ⟨(name, value), mem_entries.mpr found, rfl⟩

/-- The names of a register ascend. -/
lemma names_increasing (r : Register α) :
    r.names.Pairwise fun earlier later => Text.before earlier later = true :=
  List.pairwise_map.mpr r.ordered

/-- No name of a register is told twice. -/
lemma names_nodup (r : Register α) : r.names.Nodup := by
  refine r.names_increasing.imp ?_
  rintro name _ before rfl
  exact Bool.false_ne_true ((Text.isOrder_before.irrefl name).symm.trans before)

/-- Registers with the same names list them in the same way. -/
lemma names_eq_iff {β : Type} {r' : Register β} :
    r.names = r'.names ↔ ∀ name, r.contains name ↔ r'.contains name := by
  constructor
  · intro same name
    rw [← mem_names, ← mem_names, same]
  · intro same
    let earlier (s t : String) : Prop := Text.before s t = true
    have irrefl : Std.Irrefl earlier := ⟨fun s => by simp [earlier, Text.isOrder_before.irrefl]⟩
    have antisymm : Std.Antisymm earlier :=
      ⟨fun s t st ts => absurd (Text.isOrder_before.trans st ts) (irrefl.irrefl s)⟩
    refine List.Pairwise.eq_of_mem_iff (r := earlier) ?_ ?_ fun name => ?_
    · exact List.pairwise_map.mpr r.ordered
    · exact List.pairwise_map.mpr r'.ordered
    · rw [mem_names, mem_names]
      exact same name

/-- A register contains what was inserted, and what it contained before. -/
lemma contains_insert :
    (r.insert name value).contains other ↔ name = other ∨ r.contains other := by
  rw [contains, contains, get?_insert]
  split_ifs with same <;> simp [same]

/-- A register that is made of pairs contains their names. -/
lemma contains_ofList {pairs : List (String × α)} :
    (ofList pairs).contains name ↔ name ∈ pairs.map Prod.fst := by
  have inserted (pairs : List (String × α)) (r : Register α) :
      (pairs.foldl (fun r pair => r.insert pair.1 pair.2) r).contains name ↔
        name ∈ pairs.map Prod.fst ∨ r.contains name := by
    induction pairs generalizing r with
    | nil => simp
    | cons pair rest ih =>
      rw [List.foldl_cons, ih, contains_insert, List.map_cons, List.mem_cons]
      tauto
  refine (inserted pairs empty).trans ?_
  simp [contains, get?_empty]

/-- A register has no entries exactly if it contains no name. -/
lemma isEmpty_entries : r.entries.isEmpty ↔ ∀ name, ¬ r.contains name := by
  rw [List.isEmpty_iff]
  constructor
  · intro none name found
    rw [← mem_names, names, none] at found
    cases found
  · intro none
    refine List.eq_nil_iff_forall_not_mem.mpr fun e member => none e.1 ?_
    exact mem_names.mp (List.mem_map_of_mem member)

end UseCase.Register
