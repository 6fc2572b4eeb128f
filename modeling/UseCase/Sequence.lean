/-!
# Control sequences

What a card description asks the hardware to do when a verb, device or modifier is entered or left.
A sequence may call the enable or disable sequence of another entity of the same verb.
-/

namespace UseCase

/-- The two sorts of entities that a verb has. -/
inductive Kind where
  | device
  | modifier
  deriving DecidableEq, Repr

/-- The word for a kind in messages. -/
def Kind.text : Kind → String
  | device => "device"
  | modifier => "modifier"

/-- Which sequence of an entity a call runs. -/
inductive Phase where
  | enable
  | disable
  deriving DecidableEq, Repr

/-- One line of a sequence. -/
inductive Action where
  /-- Writes that follow go to this control device. -/
  | controlDevice (name : String)
  /-- Writes a control. -/
  | write (control value : String)
  /-- Runs a command of the system. -/
  | command (text : String)
  /-- Waits. -/
  | pause (nanoseconds : Nat)
  /-- Runs a sequence of another entity. -/
  | call (kind : Kind) (name : String) (phase : Phase)
  deriving DecidableEq, Repr

/-- A pause of `n` microseconds. -/
def Action.microseconds (n : Nat) : Action := .pause (n * 1000)

/-- A pause of `n` milliseconds. -/
def Action.milliseconds (n : Nat) : Action := .pause (n * 1000000)

/-- The actions of a sequence, in order. -/
abbrev Sequence := List Action

/-- The sequence that writes one control. -/
def Sequence.write (control value : String) : Sequence :=
  [.write control value]

end UseCase
