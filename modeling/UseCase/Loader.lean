import UseCase.Fault
import UseCase.Backend

/-!
# Sources of card descriptions

A loader finds the description of a card and lists the cards that it knows. Like a control surface
it is a state of some type with operations on it, since what it answers may change over time.
-/

namespace UseCase

/-- An element of a list: a name, and a comment if there is one. -/
structure Entry where
  name : String
  comment : Option String
  deriving DecidableEq, Repr

/-- The element for a name alone. -/
def Entry.plain (name : String) : Entry := ⟨name, none⟩

/-- The operations of a source of card descriptions. -/
structure Loader (σ : Type) where
  load : CardName → EStateM Fault σ Card
  cards : EStateM Fault σ (List Entry)

/-- The loader that is a part of a larger state. -/
def Loader.onPart {σ τ : Type} (get : τ → σ) (set : τ → σ → τ) (l : Loader σ) : Loader τ where
  load name := UseCase.onPart get set (l.load name)
  cards := UseCase.onPart get set l.cards

/-- Reads a card name. -/
def CardName.parse (text : String) : Except Fault CardName :=
  match CardName.ofText? text with
  | some name => .ok name
  | none => .error (.invalid (.emptyCard text))

end UseCase
