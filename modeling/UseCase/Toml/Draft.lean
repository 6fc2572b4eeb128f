import UseCase.Toml.Value

/-!
# Documents under construction

While a document is read, each table remembers how it came into being, because that decides what may
still be added to it: a table that a header defines is defined once, a table that dotted keys make
is extended by dotted keys only, and what a pair gives as a value is complete. An array of tables
grows at its end, and paths through it lead into its last table.
-/

namespace UseCase.Toml

/-- How a table came into being. -/
inductive Origin where
  /-- It lies on the way to a table with a header. -/
  | implied
  /-- It has a header of its own. -/
  | header
  /-- It lies on the way of a dotted key. -/
  | dotted
  deriving DecidableEq, Repr

/-- A part of a document under construction. -/
inductive Draft where
  | value (v : Value)
  | table (origin : Origin) (entries : List (String × Draft))
  /-- An array of tables: the earlier ones and the last one. -/
  | tables (front : List (List (String × Draft))) (last : List (String × Draft))

/-- A key: the tables on its way and its name in the last of them. -/
structure Key where
  path : List String
  name : String
  deriving DecidableEq, Repr

namespace Draft

/-- The entries of a table under construction. -/
abbrev Entries := List (String × Draft)

/-- Changes the entry with a name, or adds one. -/
def alter (name : String) (f : Option Draft → Option Draft) : Entries → Option Entries
  | [] => (f none).map fun d => [(name, d)]
  | (n, d) :: rest =>
    if n = name then (f (some d)).map fun d => (n, d) :: rest
    else (alter name f rest).map fun rest => (n, d) :: rest

/-- Changes the table at the end of a path of headers. -/
def within (f : Entries → Option Entries) : List String → Entries → Option Entries
  | [], entries => f entries
  | name :: path, entries =>
    alter name (fun
      | none => (within f path []).map (.table .implied)
      | some (.table origin entries) => (within f path entries).map (.table origin)
      | some (.tables front last) => (within f path last).map (.tables front)
      | some (.value _) => none) entries

/-- Defines a table with a header of its own. -/
def define (name : String) : Entries → Option Entries :=
  alter name fun
    | none => some (.table .header [])
    | some (.table .implied entries) => some (.table .header entries)
    | some _ => none

/-- Adds a table to an array of tables. -/
def append (name : String) : Entries → Option Entries :=
  alter name fun
    | none => some (.tables [] [])
    | some (.tables front last) => some (.tables (front ++ [last]) [])
    | some _ => none

/-- Gives a new name a value. -/
def give (name : String) (v : Value) : Entries → Option Entries :=
  alter name fun
    | none => some (.value v)
    | some _ => none

/-- Gives a dotted key a value. It may pass through tables without headers and through the last
tables of arrays, and the table that holds its last part has to be one of dotted keys. -/
def put (name : String) (v : Value) : List String → Entries → Option Entries
  | [], entries => give name v entries
  | part :: path, entries =>
    alter part (fun
      | none => (put name v path []).map (.table .dotted)
      | some (.table .dotted entries) => (put name v path entries).map (.table .dotted)
      | some (.table .implied entries) =>
        if path = [] then none else (put name v path entries).map (.table .implied)
      | some (.tables front last) =>
        if path = [] then none else (put name v path last).map (.tables front)
      | some _ => none) entries

mutual

/-- The finished value. -/
def finish : Draft → Value
  | .value v => v
  | .table _ entries => .table (finishEntries entries)
  | .tables front last => .array (finishTables front ++ [.table (finishEntries last)])

/-- The finished entries of a table. -/
def finishEntries : List (String × Draft) → List (String × Value)
  | [] => []
  | (name, d) :: rest => (name, finish d) :: finishEntries rest

/-- The finished tables of an array. -/
def finishTables : List (List (String × Draft)) → List Value
  | [] => []
  | entries :: rest => .table (finishEntries entries) :: finishTables rest

end

end Draft

end UseCase.Toml
