import UseCase.Number.Binary64
import UseCase.Toml.Moment

/-!
# TOML values

The data that a TOML document holds. Tables keep their keys in the order of the document, each key
once. A number that no reader can hold is a value like any other as long as nobody looks at it.
-/

namespace UseCase.Toml

/-- A value of a TOML document. -/
inductive Value where
  | text (content : String)
  | integer (n : Int)
  | float (x : Binary64)
  | boolean (b : Bool)
  | moment (m : Moment)
  | array (items : List Value)
  | table (entries : List (String × Value))
  /-- A number beyond all bounds or with wrong digits. -/
  | unreadable
  deriving Repr

mutual

/-- Whether every number in a value can be read. -/
def Value.isReadable : Value → Bool
  | .unreadable => false
  | .array items => areReadable items
  | .table entries => haveReadable entries
  | _ => true

/-- Whether every number in some values can be read. -/
def areReadable : List Value → Bool
  | [] => true
  | v :: rest => v.isReadable && areReadable rest

/-- Whether every number in the values of some entries can be read. -/
def haveReadable : List (String × Value) → Bool
  | [] => true
  | (_, v) :: rest => v.isReadable && haveReadable rest

end

end UseCase.Toml
