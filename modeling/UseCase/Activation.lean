import UseCase.Card

/-!
# Activation

Which verb of a card is active, and which of its devices and modifiers, in the order in which they
became active. Entities are kept by their positions in the card description. `status` gives the
names.
-/

namespace UseCase

/-- The active verb and entities, and whether the defaults sequence was run. -/
structure Activation where
  verb : Option Nat
  devices : List Nat
  modifiers : List Nat
  defaultsApplied : Bool
  deriving DecidableEq, Repr

/-- The active verb and entities by name. -/
structure Status where
  verb : Option String
  devices : List String
  modifiers : List String
  deriving DecidableEq, Repr

namespace Activation

/-- Nothing is active, as after opening a card. -/
def fresh : Activation := ⟨none, [], [], false⟩

/-- The active entities of a kind. -/
def active (a : Activation) : Kind → List Nat
  | .device => a.devices
  | .modifier => a.modifiers

/-- Replaces the active entities of a kind. -/
def setActive (a : Activation) (kind : Kind) (indices : List Nat) : Activation :=
  match kind with
  | .device => { a with devices := indices }
  | .modifier => { a with modifiers := indices }

/-- Whether the entity at this position is active. -/
def isActive (a : Activation) (kind : Kind) (index : Nat) : Bool :=
  (a.active kind).contains index

/-- Adds an entity as the last one. -/
def add (a : Activation) (kind : Kind) (index : Nat) : Activation :=
  a.setActive kind (a.active kind ++ [index])

/-- Takes an entity out. -/
def remove (a : Activation) (kind : Kind) (index : Nat) : Activation :=
  a.setActive kind ((a.active kind).filter fun i => i != index)

/-- Puts an entity into the first place where another one stands. -/
def replace (a : Activation) (kind : Kind) (old new : Nat) : Activation :=
  a.setActive kind ((a.active kind).replace old new)

/-- No verb and no entity; whether the defaults sequence was run is kept. -/
def leave (a : Activation) : Activation :=
  { a with verb := none, devices := [], modifiers := [] }

/-- The active verb of a card. -/
def activeVerb? (a : Activation) (c : Card) : Option Verb :=
  a.verb.bind c.verb?

/-- The active entities of a kind, in order of activation. -/
def entities (a : Activation) (v : Verb) (kind : Kind) : List Entity :=
  (a.active kind).filterMap (v.entity? kind)

/-- The active verb and entities by name. -/
def status (a : Activation) (c : Card) : Status :=
  match a.activeVerb? c with
  | none => ⟨none, [], []⟩
  | some v =>
    ⟨some v.name, (a.entities v .device).map Entity.name, (a.entities v .modifier).map Entity.name⟩

end Activation

end UseCase
