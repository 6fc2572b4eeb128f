import UseCase.Card.Validity
import UseCase.Command
import UseCase.Loader
import UseCase.Lookup
import UseCase.Query.Listing
import UseCase.Transition

/-!
# Sessions

A session is an open card: its description, its activation and the control surface. It answers the
questions `get`, `geti` and `list`, carries out the changes of `set`, and can be loaded anew. All
fields but the control surface change only when an operation says so, also when it fails.
-/

namespace UseCase

/-- An open card. The control surface, and whatever the loader reads, is the state of type `σ`. -/
structure Session (σ : Type) where
  /-- Sessions are numbered from zero. -/
  id : Nat
  /-- The name under which the card was opened, used again to reload it. -/
  name : CardName
  card : Card
  rig : Rig σ

namespace Session

variable {σ : Type}

/-- An operation on a session. -/
abbrev Op (σ : Type) := EStateM Fault (Session σ)

/-- Loads a description and accepts it only if it is valid. -/
def loadValid (l : Loader σ) (name : CardName) : EStateM Fault σ Card := do
  let card ← l.load name
  ofExcept card.validate
  return card

/-- Opens a card; no verb is active at first. -/
def open? (l : Loader σ) (id : Nat) (text : String) (state : σ) :
    EStateM.Result Fault σ (Session σ) :=
  match CardName.parse text with
  | .error fault => .error fault state
  | .ok name =>
    match loadValid l name state with
    | .error fault state => .error fault state
    | .ok card state => .ok ⟨id, name, card, ⟨.fresh, state⟩⟩ state

/-- Acts on the activation and the control surface. -/
def onRig {α : Type} (x : Card → Rig.Op σ α) : Op σ α :=
  fun s => onPart Session.rig (fun s rig => { s with rig := rig }) (x s.card) s

/-- Acts on the state that control surface and loader share. -/
def onState {α : Type} (x : EStateM Fault σ α) : Op σ α :=
  onRig fun _ => Rig.onSurface x

/-- Loads the description anew and forgets the activation. On failure both stay as they are, and no
sequence is run in either case. -/
def reload (l : Loader σ) : Op σ Unit := do
  let card ← onState (loadValid l (← get).name)
  modify fun s => { s with card := card, rig := { s.rig with activation := .fresh } }

/-- Leaves the active verb and forgets that the defaults sequence was run. -/
def reset (b : Backend σ) : Op σ Unit :=
  onRig (Rig.reset b)

/-- Carries out a command. -/
def execute (b : Backend σ) (command : Command) : Op σ Unit :=
  onRig fun c => match command with
    | .fixedBoot => Rig.runFixedBoot b c
    | .boot => Rig.runBoot b c
    | .defaults => Rig.runDefaults b c
    | .setVerb name => Rig.setVerb b c name
    | .enable kind name => Rig.enable b c kind name
    | .disable kind name => Rig.disable b c kind name
    | .switch kind old new => Rig.switch b c kind old new

/-- Reads a command and carries it out. -/
def set (b : Backend σ) (identifier : String) (value : Option String) : Op σ Unit := do
  execute b (← ofExcept (Command.parse identifier value))

/-- The active verb and entities by name. -/
def status (s : Session σ) : Status :=
  s.rig.activation.status s.card

/-- The value that a query asks for. -/
def resolve (s : Session σ) (q : ValueQuery) : Except Fault String :=
  Lookup.resolve s.card s.rig.activation q

/-- A text that a card may lack. -/
def present (what : Missing) : Option String → Except Fault String
  | some text => .ok text
  | none => .error (.notFound what)

/-- The prefix of the names in the library configuration of a session. -/
def libraryPrefix (id : Nat) : String :=
  "_ucm" ++ Text.hexadecimal 4 id ++ "."

/-- Answers a question for a text. -/
def get (s : Session σ) (identifier : String) : Except Fault String := do
  match ← TextQuery.parse identifier with
  | .card => return s.card.info.name
  | .verb => return s.status.verb.getD inactiveName
  | .file => present .file s.card.info.file
  | .libraryConfig => present .library s.card.info.libraryConfig
  | .libraryPrefix =>
    present .library (s.card.info.libraryConfig.map fun _ => libraryPrefix s.id)
  | .value q => s.resolve q

/-- The number that a value writes; blanks around it are ignored. -/
def number (name value : String) : Except Fault Int :=
  match Text.integer? 64 (Text.trim value.toList) with
  | some n => .ok n
  | none => .error (.invalid (.notInteger name value))

/-- Answers a question for a number. -/
def geti (s : Session σ) (identifier : String) : Except Fault Int := do
  match ← NumberQuery.parse identifier with
  | .status kind name =>
    let enabled ← s.rig.activation.isEnabled s.card kind name
    return if enabled then 1 else 0
  | .value q => number q.name (← s.resolve q)

/-- The named verb, or the active one. -/
def verbOrActive (s : Session σ) : Option String → Except Fault Verb
  | some name =>
    match (s.card.findVerb? name).bind s.card.verb? with
    | some v => .ok v
    | none => .error (.notFound (.verb name))
  | none =>
    match s.rig.activation.activeVerb? s.card with
    | some v => .ok v
    | none => .error (.notFound .activeVerb)

/-- The element for an entity. -/
def entryOf (e : Entity) : Entry := ⟨e.name, e.comment⟩

/-- The tone qualities of a verb, its devices and its modifiers, each once. -/
def toneQualities (v : Verb) : List String :=
  let sources := v.values :: (v.devices ++ v.modifiers).map Entity.values
  (sources.filterMap fun values => values.get? "TQ").foldl
    (fun found quality => if found.contains quality then found else found ++ [quality]) []

/-- What an entity has under an aspect. -/
def aspect (e : Entity) : Aspect → List String
  | .identifiers => e.values.names
  | .supportedDevices => e.constraint.supportedDevices
  | .conflictingDevices => e.constraint.conflictingDevices

/-- The active entities of a kind; none without an active verb. -/
def activeEntities (s : Session σ) (kind : Kind) : List Entity :=
  match s.rig.activation.activeVerb? s.card with
  | some v => s.rig.activation.entities v kind
  | none => []

/-- Answers a question for a list, that of the cards apart. -/
def listed (s : Session σ) : Listing → Except Fault (List Entry)
  | .cards => .ok []
  | .verbs => .ok (s.card.verbs.map fun v => ⟨v.name, v.comment⟩)
  | .entities kind verb => do
    let v ← s.verbOrActive verb
    return (v.entities kind).map entryOf
  | .toneQualities verb => do
    let v ← s.verbOrActive verb
    return (toneQualities v).map .plain
  | .active kind => .ok ((s.activeEntities kind).map entryOf)
  | .about what anchor verb => do
    let e ← Lookup.anchorEntity s.card s.rig.activation verb anchor
    return (aspect e what).map .plain

/-- Answers a question for a list. -/
def list (l : Loader σ) (identifier : Option String) : Op σ (List Entry) := do
  match ← ofExcept (Listing.parse identifier) with
  | .cards => onState l.cards
  | listing => ofExcept ((← MonadState.get).listed listing)

end Session

end UseCase
