import UseCase.Card.Validity
import UseCase.Constraint
import UseCase.Number.Shortest
import UseCase.Register
import UseCase.Text.Blank

/-!
# The layout of card files

What a card file contains, before it is known to describe a card: names may be missing or repeated,
an entity may list both supported and conflicting devices, and priorities may lie anywhere. `toCard`
builds the card and accepts exactly the layouts that describe a valid one.
-/

namespace UseCase

/-- A value in a card file. All of them become texts. -/
inductive Scalar where
  | text (content : String)
  | integer (n : Int)
  | float (x : Binary64)
  | boolean (b : Bool)
  deriving DecidableEq, Repr

/-- The text of a value. -/
def Scalar.toText : Scalar → String
  | text content => content
  | integer n => toString n
  | float x => x.text
  | boolean b => if b then "true" else "false"

/-- A device or modifier in a card file. -/
structure EntityLayout where
  name : String
  comment : Option String
  priority : Option Nat
  values : Register Scalar
  enable : Sequence
  disable : Sequence
  transitions : Register Sequence
  supported : List String
  conflicting : List String

/-- A verb in a card file. -/
structure VerbLayout where
  name : String
  comment : Option String
  values : Register Scalar
  enable : Sequence
  disable : Sequence
  devices : List EntityLayout
  modifiers : List EntityLayout

/-- The part of a card file about the card itself. -/
structure InfoLayout where
  name : Option String
  comment : Option String
  driver : Option String
  longName : Option String
  id : Option String
  index : Option Nat
  controlDevice : Option String
  libraryConfig : Option String

/-- A card file. -/
structure CardLayout where
  info : InfoLayout
  defaults : Register Scalar
  fixedBoot : Sequence
  boot : Sequence
  defaultsSequence : Sequence
  verbs : List VerbLayout

/-- The part about the card when it is left out. -/
def InfoLayout.empty : InfoLayout := ⟨none, none, none, none, none, none, none, none⟩

/-- The values as texts. -/
def valueMap (values : Register Scalar) : ValueMap :=
  .ofList (values.map Scalar.toText).entries

namespace EntityLayout

/-- Numbers in card files are 32-bit words. -/
def wordBound : Nat := Text.wordCount 32

/-- The values that give the priority of an entity without one, the first that is a number. -/
def priorityNames : List String :=
  ["Priority", "PlaybackPriority", "CapturePriority"]

/-- The priority that a value gives; blanks around it are ignored. -/
def priorityOf? (values : ValueMap) (name : String) : Option Nat :=
  (values.get? name).bind fun value => Text.natural? wordBound (Text.trim value.toList)

/-- The priority of an entity: given, derived from its values, or the least one. -/
def effectivePriority (e : EntityLayout) : Nat :=
  let derived := priorityNames.findSome? (priorityOf? (valueMap e.values))
  (e.priority.or derived).getD Entity.minPriority

/-- How messages name an entity. -/
def owner (e : EntityLayout) (kind : Kind) (verb : String) : String :=
  s!"{kind.text} '{e.name}' in verb '{verb}'"

/-- The entity of a verb. -/
def toEntity (e : EntityLayout) (kind : Kind) (verb : String) : Except Fault Entity := do
  let constraint ← Constraint.ofLists (e.owner kind verb) e.supported e.conflicting
  return {
    kind := kind
    name := e.name
    comment := e.comment
    values := valueMap e.values
    enable := e.enable
    disable := e.disable
    transitions := e.transitions.entries
    priority := e.effectivePriority
    constraint := constraint }

end EntityLayout

/-- The verb; its devices are built before its modifiers. -/
def VerbLayout.toVerb (v : VerbLayout) : Except Fault Verb := do
  let devices ← v.devices.mapM fun e => e.toEntity .device v.name
  let modifiers ← v.modifiers.mapM fun e => e.toEntity .modifier v.name
  return {
    name := v.name
    comment := v.comment
    values := valueMap v.values
    enable := v.enable
    disable := v.disable
    devices := devices
    modifiers := modifiers }

/-- What identifies the card; `fallback` is its name unless it gives one. -/
def InfoLayout.toInfo (i : InfoLayout) (fallback : String) (file : Option String) : CardInfo where
  name := i.name.getD fallback
  comment := i.comment
  driver := i.driver
  longName := i.longName
  id := i.id
  index := i.index
  controlDevice := i.controlDevice
  libraryConfig := i.libraryConfig
  file := file

/-- The card that a layout describes, if it is a valid one. -/
def CardLayout.toCard (c : CardLayout) (fallback : String) (file : Option String) :
    Except Fault Card := do
  let verbs ← c.verbs.mapM VerbLayout.toVerb
  let card : Card := {
    info := c.info.toInfo fallback file
    defaults := valueMap c.defaults
    fixedBoot := c.fixedBoot
    boot := c.boot
    defaultsSequence := c.defaultsSequence
    verbs := verbs }
  card.validate
  return card

end UseCase
