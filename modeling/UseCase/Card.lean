import UseCase.Sequence
import UseCase.ValueMap

/-!
# Cards, verbs and entities

A card offers verbs (use cases); a verb has devices and modifiers, both called entities here. The
description of a card never changes while it is open, so that an entity is known by its verb and its
position in the verb's list of its kind.
-/

namespace UseCase

/-- Which other devices have to be, or must not be, active for an entity to become active. -/
inductive Constraint where
  | any
  | supported (devices : List String)
  | conflicting (devices : List String)
  deriving DecidableEq, Repr

/-- The devices one of which has to be active. -/
def Constraint.supportedDevices : Constraint → List String
  | supported devices => devices
  | _ => []

/-- The devices none of which may be active. -/
def Constraint.conflictingDevices : Constraint → List String
  | conflicting devices => devices
  | _ => []

/-- A device or a modifier of a verb. -/
structure Entity where
  kind : Kind
  name : String
  comment : Option String
  values : ValueMap
  enable : Sequence
  disable : Sequence
  /-- Sequences that lead directly to another entity, by its name. -/
  transitions : List (String × Sequence)
  priority : Nat
  constraint : Constraint
  deriving DecidableEq, Repr

namespace Entity

/-- The least priority of a sound card description. -/
def minPriority : Nat := 1

/-- The greatest priority of a sound card description. -/
def maxPriority : Nat := 10000

/-- An entity with nothing but a name. -/
def plain (kind : Kind) (name : String) : Entity where
  kind := kind
  name := name
  comment := none
  values := .empty
  enable := []
  disable := []
  transitions := []
  priority := minPriority
  constraint := .any

/-- The sequence that leads directly to `target`, the first one if there are several. -/
def transitionTo? (e : Entity) (target : String) : Option Sequence :=
  (e.transitions.find? fun (name, _) => name == target).map Prod.snd

/-- The sequence of a phase. -/
def sequence (e : Entity) : Phase → Sequence
  | .enable => e.enable
  | .disable => e.disable

end Entity

/-- A use case with its devices and modifiers. -/
structure Verb where
  name : String
  comment : Option String
  values : ValueMap
  enable : Sequence
  disable : Sequence
  devices : List Entity
  modifiers : List Entity
  deriving DecidableEq, Repr

namespace Verb

/-- A verb with nothing but a name. -/
def plain (name : String) : Verb where
  name := name
  comment := none
  values := .empty
  enable := []
  disable := []
  devices := []
  modifiers := []

/-- The entities of a kind. -/
def entities (v : Verb) : Kind → List Entity
  | .device => v.devices
  | .modifier => v.modifiers

/-- The position of the first entity with exactly this name. -/
def find? (v : Verb) (kind : Kind) (name : String) : Option Nat :=
  (v.entities kind).findIdx? fun e => e.name == name

/-- The entity at a position. -/
def entity? (v : Verb) (kind : Kind) (index : Nat) : Option Entity :=
  (v.entities kind)[index]?

end Verb

/-- What identifies a card, and settings of its own. -/
structure CardInfo where
  name : String
  comment : Option String
  driver : Option String
  longName : Option String
  id : Option String
  index : Option Nat
  /-- The control device of sequences until they choose another. -/
  controlDevice : Option String
  /-- Configuration text for the sound library. -/
  libraryConfig : Option String
  /-- The file that describes the card. -/
  file : Option String
  deriving DecidableEq, Repr

/-- A card with nothing but a name. -/
def CardInfo.plain (name : String) : CardInfo where
  name := name
  comment := none
  driver := none
  longName := none
  id := none
  index := none
  controlDevice := none
  libraryConfig := none
  file := none

/-- The description of a card. -/
structure Card where
  info : CardInfo
  /-- Values of last resort. -/
  defaults : ValueMap
  fixedBoot : Sequence
  boot : Sequence
  defaultsSequence : Sequence
  verbs : List Verb
  deriving DecidableEq, Repr

/-- The name under which no verb is active. -/
def inactiveName : String := "Inactive"

namespace Card

/-- The position of the first verb with exactly this name. -/
def findVerb? (c : Card) (name : String) : Option Nat :=
  c.verbs.findIdx? fun v => v.name == name

/-- The verb at a position. -/
def verb? (c : Card) (index : Nat) : Option Verb :=
  c.verbs[index]?

end Card

end UseCase
