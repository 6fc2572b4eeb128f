import UseCase.CardFile.Layout
import UseCase.Toml.Document
import UseCase.Toml.Record

/-!
# Card files

A card file is a TOML document. The readers here find its layout in the document and refuse keys
that the layout does not know; an action is a table with exactly one key. `Card.ofText` goes all the
way from the text of a file to the card.
-/

namespace UseCase

open Toml (Value Record)

namespace CardFile

/-- A value that becomes a text. Beyond the range of signed 64-bit words, integers are read as
floats as far as unsigned words reach. -/
def scalar? : Value → Option Scalar
  | .text content => some (.text content)
  | .integer n =>
    if n < -Text.wordCount 63 ∨ Text.wordCount 64 ≤ n then none
    else if n < Text.wordCount 63 then some (.integer n)
    else some (.float (.ofNat n.toNat))
  | .float x => some (.float x)
  | .boolean b => some (.boolean b)
  | _ => none

/-- A write of a control. -/
def write? (v : Value) : Option Action := do
  let r ← Record.ofValue? true ["control", "value"] v
  let control ← r.required "control" Value.text?
  let value ← r.required "value" scalar?
  return .write control value.toText

/-- A length of time in some unit. -/
def duration? : Value → Option Nat :=
  Value.natBelow? (Text.wordCount 63)

/-- A call of a sequence of another entity. -/
def call? (kind : Kind) (phase : Phase) (v : Value) : Option Action :=
  v.text?.map fun name => .call kind name phase

/-- The action that a key and its value stand for. -/
def actionOf? (key : String) (v : Value) : Option Action :=
  match key with
  | "cdev" => v.text?.map .controlDevice
  | "cset" => write? v
  | "exec" => v.text?.map .command
  | "usleep" => (duration? v).map .microseconds
  | "msleep" => (duration? v).map .milliseconds
  | "enadev" => call? .device .enable v
  | "disdev" => call? .device .disable v
  | "enamod" => call? .modifier .enable v
  | "dismod" => call? .modifier .disable v
  | _ => none

/-- An action. -/
def action? : Value → Option Action
  | .table [(key, v)] => actionOf? key v
  | _ => none

/-- A sequence. -/
def sequence? : Value → Option Sequence :=
  Value.list? action?

/-- The values of a card, a verb or an entity. -/
def values? : Value → Option (Register Scalar) :=
  Value.register? scalar?

/-- A 32-bit word. -/
def word? : Value → Option Nat :=
  Value.natBelow? EntityLayout.wordBound

/-- A device or modifier. -/
def entity? (v : Value) : Option EntityLayout := do
  let r ← Record.ofValue? true
    ["name", "comment", "priority", "values", "enable", "disable", "transition", "supported",
      "conflicting"] v
  return {
    name := ← r.required "name" Value.text?
    comment := ← r.optional "comment" Value.text?
    priority := ← r.optional "priority" word?
    values := ← r.withDefault "values" .empty values?
    enable := ← r.withDefault "enable" [] sequence?
    disable := ← r.withDefault "disable" [] sequence?
    transitions := ← r.withDefault "transition" .empty (Value.register? sequence?)
    supported := ← r.withDefault "supported" [] (Value.list? Value.text?)
    conflicting := ← r.withDefault "conflicting" [] (Value.list? Value.text?) }

/-- A verb. -/
def verb? (v : Value) : Option VerbLayout := do
  let r ← Record.ofValue? true
    ["name", "comment", "values", "enable", "disable", "device", "modifier"] v
  return {
    name := ← r.required "name" Value.text?
    comment := ← r.optional "comment" Value.text?
    values := ← r.withDefault "values" .empty values?
    enable := ← r.withDefault "enable" [] sequence?
    disable := ← r.withDefault "disable" [] sequence?
    devices := ← r.withDefault "device" [] (Value.list? entity?)
    modifiers := ← r.withDefault "modifier" [] (Value.list? entity?) }

/-- The part about the card itself. -/
def info? (v : Value) : Option InfoLayout := do
  let r ← Record.ofValue? true
    ["name", "comment", "driver", "long_name", "id", "index", "ctl_device", "lib_config"] v
  return {
    name := ← r.optional "name" Value.text?
    comment := ← r.optional "comment" Value.text?
    driver := ← r.optional "driver" Value.text?
    longName := ← r.optional "long_name" Value.text?
    id := ← r.optional "id" Value.text?
    index := ← r.optional "index" word?
    controlDevice := ← r.optional "ctl_device" Value.text?
    libraryConfig := ← r.optional "lib_config" Value.text? }

/-- A card file. -/
def card? (v : Value) : Option CardLayout := do
  let r ← Record.ofValue? true
    ["card", "defaults", "fixed_boot", "boot", "defaults_sequence", "verb"] v
  return {
    info := ← r.withDefault "card" .empty info?
    defaults := ← r.withDefault "defaults" .empty values?
    fixedBoot := ← r.withDefault "fixed_boot" [] sequence?
    boot := ← r.withDefault "boot" [] sequence?
    defaultsSequence := ← r.withDefault "defaults_sequence" [] sequence?
    verbs := ← r.withDefault "verb" [] (Value.list? verb?) }

/-- Reads the layout of a card file from its text. -/
def read (text : String) : Except TomlFault CardLayout :=
  match Value.ofText? text with
  | none => .error .malformed
  | some v =>
    match card? v with
    | none => .error .layout
    | some layout => .ok layout

end CardFile

/-- Reads a card from the text of a card file. -/
def Card.ofText (text fallback : String) (file : Option String) : Except Fault Card := do
  let layout ← (CardFile.read text).mapError .toml
  layout.toCard fallback file

end UseCase
