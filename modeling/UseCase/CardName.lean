import UseCase.Text.Numeral
import UseCase.Text.Split

/-!
# Card names

How the argument of `open` selects a card: by file name or, failing that, by driver or long name; by
file name alone (`strict:NAME`); by index (`hw:3`); or by identifier (`hw:PCH`). `ofText?` reads the
argument and `text` writes it.
-/

namespace UseCase

/-- A selection of one card. -/
inductive CardName where
  | named (name : String)
  | strict (name : String)
  | index (index : Nat)
  | identifier (id : String)
  deriving DecidableEq, Repr

namespace CardName

/-- Card indices are 32-bit words. -/
def indexBound : Nat := Text.wordCount 32

/-- The written form. -/
def text : CardName → String
  | named name => name
  | strict name => "strict:" ++ name
  | index n => "hw:" ++ toString n
  | identifier id => "hw:" ++ id

/-- Reads the characters after `hw:`, an index if they are a numeral in range. -/
def hardware (chars : List Char) : CardName :=
  match Text.natural? indexBound chars with
  | some n => index n
  | none => identifier (String.ofList chars)

/-- Reads a card name before its check for emptiness. -/
def classify (text : String) : CardName :=
  match Text.after? "strict:".toList text.toList with
  | some rest => strict (String.ofList rest)
  | none =>
    match Text.after? "hw:".toList text.toList with
    | some rest => hardware rest
    | none => named text

/-- A name or identifier without characters. -/
def isEmpty : CardName → Bool
  | named name | strict name | identifier name => name.isEmpty
  | index _ => false

/-- Reads a card name; an empty one is refused. -/
def ofText? (text : String) : Option CardName :=
  let name := classify text
  if name.isEmpty then none else some name

end CardName

end UseCase
