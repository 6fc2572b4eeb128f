import UseCase.Text.Bytes

/-!
# Tables of names

A table of names has a number of places. The bytes of a name tell its place, and names of one place
stay in the order in which they came. A table is listed place by place.
-/

namespace UseCase.Shell.NameTable

open Text (Bytes)

/-- The place of a name in a table with a number of places. -/
def place (count : Nat) (name : Bytes) : Nat :=
  (name.foldl (fun n c => n + c.toNat) (16 * (name.headD '\x00').toNat)) % count

/-- The entries of a table, which come in the order in which they were added, place by place. -/
def listed {α : Type} (count : Nat) (entries : List (Bytes × α)) : List (Bytes × α) :=
  (List.range count).flatMap fun i => entries.filter fun (name, _) => place count name == i

/-- The number of places for variables and for other names of commands. -/
def forNames : Nat := 39

/-- The number of places for commands. -/
def forCommands : Nat := 31

/-- The entries after the one with a name was replaced, added or removed. -/
def put {α : Type} (name : Bytes) (value : Option α) (entries : List (Bytes × α)) :
    List (Bytes × α) :=
  match value with
  | none => entries.filter fun (n, _) => n != name
  | some v =>
    if entries.any fun (n, _) => n == name then
      entries.map fun (n, old) => (n, if n = name then v else old)
    else entries ++ [(name, v)]

/-- The entry with a name. -/
def get? {α : Type} (name : Bytes) (entries : List (Bytes × α)) : Option α :=
  (entries.find? fun (n, _) => n == name).map Prod.snd

end UseCase.Shell.NameTable
