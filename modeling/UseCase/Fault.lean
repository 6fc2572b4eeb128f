import UseCase.CardName
import UseCase.Card

/-!
# Faults

Every way in which an operation can fail, as a cause; `message` gives its wording and `code` the
negative error number that callers of the operating system's kind expect. Faults of the control
surface and of the system come first, because a fault of a sequence carries the one that
stopped it.
-/

namespace UseCase

/-- What the operating system can refuse. -/
inductive SystemFault where
  | missing
  | notDirectory
  | alreadyExists
  | isDirectory
  | notEmpty
  | nameTooLong
  | tooManyLinks
  /-- The path of a file holds the character that ends texts of the system. -/
  | nulInPath
  /-- A command holds that character. -/
  | nulInCommand
  | notText
  /-- There is nothing behind a device. -/
  | noDevice
  deriving DecidableEq, Repr

namespace SystemFault

/-- The wording of the operating system for a refusal, without its number. -/
def reason : SystemFault → String
  | missing => "No such file or directory"
  | notDirectory => "Not a directory"
  | alreadyExists => "File exists"
  | isDirectory => "Is a directory"
  | notEmpty => "Directory not empty"
  | nameTooLong => "File name too long"
  | tooManyLinks => "Too many levels of symbolic links"
  | nulInPath => "file name contained an unexpected NUL byte"
  | nulInCommand => "nul byte found in provided data"
  | notText => "stream did not contain valid UTF-8"
  | noDevice => "No such device or address"

/-- The number of a refusal, if it comes from the operating system itself. -/
def number? : SystemFault → Option Nat
  | missing => some 2
  | noDevice => some 6
  | alreadyExists => some 17
  | notDirectory => some 20
  | isDirectory => some 21
  | nameTooLong => some 36
  | notEmpty => some 39
  | tooManyLinks => some 40
  | nulInPath | nulInCommand | notText => none

/-- The wording for a refusal. -/
def message (f : SystemFault) : String :=
  match f.number? with
  | some n => s!"{f.reason} (os error {n})"
  | none => f.reason

end SystemFault

/-- Why a TOML document cannot be used. -/
inductive TomlFault where
  /-- The text is no TOML document. -/
  | malformed
  /-- The document does not have the expected layout. -/
  | layout
  deriving DecidableEq, Repr

/-- What is wrong with a document. -/
def TomlFault.detail : TomlFault → String
  | malformed => "malformed document"
  | layout => "unexpected layout"

/-- The wording of a TOML fault. -/
def TomlFault.message (f : TomlFault) : String :=
  "TOML parsing error: " ++ f.detail

/-- What a control surface can refuse. -/
inductive ControlFault where
  | rejected (control reason : String)
  | commandFailed (command reason : String)
  | snapshot (reason : String)
  | system (cause : SystemFault)
  deriving DecidableEq, Repr

/-- The wording of a control fault. -/
def ControlFault.message : ControlFault → String
  | rejected control reason => s!"control '{control}' rejected: {reason}"
  | commandFailed command reason => s!"command '{command}' failed: {reason}"
  | snapshot reason => s!"control snapshot unavailable: {reason}"
  | system cause => s!"IO error: {cause.message}"

/-- What can be looked for in vain. -/
inductive Missing where
  | value (name : String)
  | verb (name : String)
  | activeVerb
  | scope (name : String)
  | anchor (name verb : String)
  | entity (kind : Kind) (name verb : String)
  | card (name : CardName)
  | file
  | library
  deriving DecidableEq, Repr

/-- The wording for what is missing. -/
def Missing.message : Missing → String
  | value name => s!"value '{name}'"
  | verb name => s!"verb '{name}'"
  | activeVerb => "no active verb"
  | scope name => s!"no verb to look up '{name}' in"
  | anchor name v => s!"'{name}' in verb '{v}'"
  | entity kind name v => s!"{kind.text} '{name}' in verb '{v}'"
  | card name => s!"card '{name.text}'"
  | file => "configuration file"
  | library => "library configuration"

/-- How an argument can be wrong. -/
inductive Malformed where
  | segments (identifier : String)
  | emptyName (identifier : String)
  | valueNeeded (identifier : String)
  | unknownCommand (identifier : String)
  | namelessStatus (identifier : String)
  | unknownListing (identifier : String)
  | anchorNeeded (identifier : String)
  | notInteger (name value : String)
  | emptyCard (text : String)
  deriving DecidableEq, Repr

/-- The wording for a wrong argument. -/
def Malformed.message : Malformed → String
  | segments identifier => s!"unmatched search path segments in '{identifier}'"
  | emptyName identifier => s!"empty name in '{identifier}'"
  | valueNeeded identifier => s!"'{identifier}' requires a value"
  | unknownCommand identifier => s!"unknown set identifier '{identifier}'"
  | namelessStatus identifier => s!"'{identifier}' names no entity"
  | unknownListing identifier => s!"unknown list identifier '{identifier}'"
  | anchorNeeded identifier => s!"'{identifier}' requires a device or modifier"
  | notInteger name value => s!"value '{name}' is not an integer: {value}"
  | emptyCard text => s!"empty card name in '{text}'"

/-- Why an entity cannot join the active devices. -/
inductive Clash where
  | noneActive (supported : List String)
  | active (device : String)
  deriving DecidableEq, Repr

/-- The wording for a clash. -/
def Clash.message : Clash → String
  | noneActive supported =>
    let devices := ", ".intercalate supported
    s!"requires one of [{devices}] to be active"
  | .active device => s!"conflicting device '{device}' is active"

/-- Why a nested call cannot be made. -/
inductive CallFault where
  | tooDeep (limit : Nat)
  | outsideVerb (kind : Kind) (name : String)
  | unknown (kind : Kind) (name : String)
  deriving DecidableEq, Repr

/-- The wording for a call that cannot be made. -/
def CallFault.message : CallFault → String
  | tooDeep limit => s!"nests calls deeper than {limit}"
  | outsideVerb kind name => s!"calls {kind.text} '{name}' outside of a verb"
  | unknown kind name => s!"calls unknown {kind.text} '{name}'"

/-- What can be wrong with a card description. -/
inductive Defect where
  | namelessCard
  | namelessVerb
  | duplicateVerb (name : String)
  | namelessEntity (kind : Kind) (verb : String)
  | duplicateEntity (kind : Kind) (name verb : String)
  | priorityOutside (kind : Kind) (name : String) (priority : Nat)
  | bothConstraints (owner : String)
  | call (label : String) (cause : CallFault)
  | missingEntity (kind : Kind) (index : Nat) (verb : String)
  | missingVerb (index : Nat)
  | noConfigDirectory
  deriving DecidableEq, Repr

/-- The wording for a defect. -/
def Defect.message : Defect → String
  | namelessCard => "card name is empty"
  | namelessVerb => "verb with empty name"
  | duplicateVerb name => s!"duplicate verb '{name}'"
  | namelessEntity kind verb => s!"{kind.text} with empty name in verb '{verb}'"
  | duplicateEntity kind name verb => s!"duplicate {kind.text} '{name}' in verb '{verb}'"
  | priorityOutside kind name p =>
    s!"{kind.text} '{name}' priority {p} outside {Entity.minPriority}..={Entity.maxPriority}"
  | bothConstraints owner => s!"{owner} defines both supported and conflicting devices"
  | call label cause => s!"sequence '{label}' {cause.message}"
  | missingEntity kind index verb => s!"{kind.text} index {index} missing from verb '{verb}'"
  | missingVerb index => s!"active verb index {index} missing"
  | noConfigDirectory => "could not determine config directory"

/-- Every way in which an operation on cards fails. -/
inductive Fault where
  | notFound (what : Missing)
  | invalid (what : Malformed)
  | conflict (entity : String) (cause : Clash)
  | sequence (label : String) (step : Nat) (cause : ControlFault)
  | configuration (defect : Defect)
  | system (cause : SystemFault)
  | toml (cause : TomlFault)
  deriving DecidableEq, Repr

namespace Fault

/-- The wording of a fault. -/
def message : Fault → String
  | notFound what => s!"Not found: {what.message}"
  | invalid what => s!"Invalid argument: {what.message}"
  | conflict entity cause => s!"{entity} conflicts with the active devices: {cause.message}"
  | sequence label step cause => s!"Sequence '{label}' failed at step {step}: {cause.message}"
  | configuration defect => s!"Configuration error: {defect.message}"
  | system cause => s!"IO error: {cause.message}"
  | toml cause => cause.message

/-- The negative error number of a fault. -/
def code : Fault → Int
  | notFound _ => -2
  | invalid _ => -22
  | conflict _ _ => -16
  | sequence _ _ _ => -5
  | configuration _ | system _ | toml _ => -74

end Fault

end UseCase
