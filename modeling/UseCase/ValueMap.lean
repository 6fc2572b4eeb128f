/-!
# Ordered value maps

The values of a card, a verb, a device or a modifier: names with texts, in the order in which the
names first came in. Names are compared exactly.
-/

namespace UseCase

/-- Names with their values, in order of first insertion. -/
structure ValueMap where
  entries : List (String × String)
  deriving DecidableEq, Repr

namespace ValueMap

/-- The map without entries. -/
def empty : ValueMap := ⟨[]⟩

/-- The entries after `name` got `value`: in place if the name is there, else at the end. -/
def put (name value : String) : List (String × String) → List (String × String)
  | [] => [(name, value)]
  | (n, v) :: rest => if n = name then (n, value) :: rest else (n, v) :: put name value rest

/-- Gives `name` the value `value`. -/
def insert (m : ValueMap) (name value : String) : ValueMap :=
  ⟨put name value m.entries⟩

/-- Inserts the pairs one after the other. -/
def ofList (pairs : List (String × String)) : ValueMap :=
  pairs.foldl (fun m (name, value) => m.insert name value) empty

/-- The value of `name`, if it has one. -/
def get? (m : ValueMap) (name : String) : Option String :=
  (m.entries.find? fun (n, _) => n == name).map Prod.snd

/-- Whether `name` has a value. -/
def contains (m : ValueMap) (name : String) : Bool :=
  (m.get? name).isSome

/-- The names, in order. -/
def names (m : ValueMap) : List String :=
  m.entries.map Prod.fst

/-- The number of names. -/
def size (m : ValueMap) : Nat :=
  m.entries.length

/-- Whether there is no name. -/
def isEmpty (m : ValueMap) : Bool :=
  m.entries.isEmpty

end ValueMap

end UseCase
