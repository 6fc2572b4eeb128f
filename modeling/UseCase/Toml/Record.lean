import UseCase.Register
import UseCase.Toml.Value

/-!
# Reading TOML values

Readers for what a layout expects at a place of a document: texts, numbers within a range, lists,
tables of any keys, and records, whose keys are known. Each of them refuses a value of another
shape, but a moment also counts as a table with its text under a key of its own. A record may be
given as an array that holds its fields in order; elements after the last field are not looked at,
while what stands under other keys of a record that is open to them has to be readable.
-/

namespace UseCase.Toml

variable {α : Type}

namespace Value

/-- A text. -/
def text? : Value → Option String
  | .text content => some content
  | _ => none

/-- A whole number from zero up to, but not including, `bound`. -/
def natBelow? (bound : Nat) : Value → Option Nat
  | .integer n => if 0 ≤ n ∧ n < bound then some n.toNat else none
  | _ => none

/-- An array with elements of one sort. -/
def list? (read : Value → Option α) : Value → Option (List α)
  | .array items => items.mapM read
  | _ => none

/-- A table of any keys with values of one sort. -/
def register? (read : Value → Option α) : Value → Option (Register α)
  | .table entries =>
    (entries.mapM fun entry => (read entry.2).map fun a => (entry.1, a)).map Register.ofList
  | .moment m => (read (.text m.text)).map fun a => .ofList [(Moment.tableKey, a)]
  | _ => none

end Value

/-- The fields of a record. -/
structure Record where
  /-- Whether the fields are given by position. -/
  positional : Bool
  fields : List (String × Value)

namespace Record

/-- The fields with these keys; `closed` refuses any other key. -/
def ofValue? (closed : Bool) (keys : List String) : Value → Option Record
  | .table entries =>
    if entries.all fun (name, v) => keys.contains name || !closed && v.isReadable then
      some ⟨false, entries⟩
    else none
  | .array items => some ⟨true, keys.zip items⟩
  | _ => none

/-- The value of a field, if it is given. -/
def get? (r : Record) (key : String) : Option Value :=
  (r.fields.find? fun (name, _) => name == key).map Prod.snd

/-- A field that has to be given. -/
def required (r : Record) (key : String) (read : Value → Option α) : Option α :=
  (r.get? key).bind read

/-- A field that may be left out, except among fields given by position. -/
def optional (r : Record) (key : String) (read : Value → Option α) : Option (Option α) :=
  match r.get? key with
  | some v => (read v).map some
  | none => if r.positional then none else some none

/-- A field that may be left out for a default. -/
def withDefault (r : Record) (key : String) (default : α) (read : Value → Option α) : Option α :=
  match r.get? key with
  | some v => read v
  | none => some default

end Record

end UseCase.Toml
