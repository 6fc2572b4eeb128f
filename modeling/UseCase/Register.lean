import UseCase.Text.Order

/-!
# Registers

A register holds a value for each of some names and lists them in the order of the names. Values
that a document gives under keys, and the controls of a mixer, are kept in registers.
-/

namespace UseCase

/-- Names with values, in strictly increasing order of the names. -/
structure Register (α : Type) where
  entries : List (String × α)
  ordered : entries.Pairwise fun a b => Text.before a.1 b.1 = true

namespace Register

variable {α β : Type}

/-- Registers are the same exactly if their entries are. -/
instance [DecidableEq α] : DecidableEq (Register α) := fun r s =>
  if h : r.entries = s.entries then isTrue (by cases r; cases s; cases h; rfl)
  else isFalse fun e => h (by rw [e])

/-- The register without names. -/
def empty : Register α := ⟨[], .nil⟩

/-- There is a register, the empty one. -/
instance : Inhabited (Register α) := ⟨empty⟩

/-- The entries after `name` got `value`: in place of its old value, or before the first later name.
-/
def put (name : String) (value : α) : List (String × α) → List (String × α)
  | [] => [(name, value)]
  | (n, v) :: rest =>
    if n = name then (n, value) :: rest
    else if Text.before name n then (name, value) :: (n, v) :: rest
    else (n, v) :: put name value rest

/-- The entries after a value was put are the new one and older ones. -/
theorem mem_put {name : String} {value : α} {entries : List (String × α)} {e : String × α}
    (h : e ∈ put name value entries) : e.1 = name ∨ e ∈ entries := by
  induction entries with
  | nil => simp_all [put]
  | cons head rest ih =>
    obtain ⟨n, v⟩ := head
    unfold put at h
    split at h
    · rename_i same
      rcases List.mem_cons.mp h with rfl | tail
      · exact .inl same
      · exact .inr (List.mem_cons_of_mem _ tail)
    · split at h
      · rcases List.mem_cons.mp h with rfl | tail
        · exact .inl rfl
        · exact .inr tail
      · rcases List.mem_cons.mp h with rfl | tail
        · exact .inr List.mem_cons_self
        · exact (ih tail).imp id (List.mem_cons_of_mem _)

/-- The names stay ascending when a value is put. -/
theorem put_ordered {name : String} {value : α} {entries : List (String × α)}
    (h : entries.Pairwise fun a b => Text.before a.1 b.1 = true) :
    (put name value entries).Pairwise fun a b => Text.before a.1 b.1 = true := by
  induction entries with
  | nil => simp [put]
  | cons head rest ih =>
    obtain ⟨n, v⟩ := head
    obtain ⟨first, tail⟩ := List.pairwise_cons.mp h
    unfold put
    split
    · exact List.pairwise_cons.mpr ⟨first, tail⟩
    · rename_i differs
      split
      · rename_i earlier
        refine List.pairwise_cons.mpr ⟨fun e he => ?_, h⟩
        rcases List.mem_cons.mp he with rfl | he
        · exact earlier
        · exact Text.isOrder_before.trans earlier (first e he)
      · rename_i later
        refine List.pairwise_cons.mpr ⟨fun e he => ?_, ih tail⟩
        rcases mem_put he with same | he
        · rw [same]
          exact (Text.isOrder_before.total differs).resolve_right later
        · exact first e he

/-- Gives `name` the value `value`. -/
def insert (r : Register α) (name : String) (value : α) : Register α :=
  ⟨put name value r.entries, put_ordered r.ordered⟩

/-- Inserts the pairs one after the other. -/
def ofList (pairs : List (String × α)) : Register α :=
  pairs.foldl (fun r (name, value) => r.insert name value) empty

/-- The value of `name`, if it has one. -/
def get? (r : Register α) (name : String) : Option α :=
  (r.entries.find? fun (n, _) => n == name).map Prod.snd

/-- Whether `name` has a value. -/
def contains (r : Register α) (name : String) : Bool :=
  (r.get? name).isSome

/-- The names, in order. -/
def names (r : Register α) : List String :=
  r.entries.map Prod.fst

/-- Changes every value. -/
def map (f : α → β) (r : Register α) : Register β :=
  ⟨r.entries.map fun (name, value) => (name, f value), by
    rw [List.pairwise_map]
    exact r.ordered⟩

end Register

end UseCase
