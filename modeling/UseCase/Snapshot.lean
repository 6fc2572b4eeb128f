import UseCase.Files
import UseCase.Toml.Document
import UseCase.Toml.Quoted
import UseCase.Toml.Record

/-!
# Control snapshots

A snapshot holds the control values at some time, together with the identifiers of the controls that
there were. It is kept in a TOML file, written by `text` and read by `ofText`; keys that a snapshot
does not have are ignored there, and both of its lists may be left out.
-/

namespace UseCase

/-- The value of a control of a control device. -/
structure ControlValue where
  device : String
  control : String
  value : String
  deriving DecidableEq, Repr

/-- Control values, and the identifiers of the controls that there were. -/
structure Snapshot where
  identifiers : List String
  values : List ControlValue
  deriving DecidableEq, Repr

namespace Snapshot

/-- Whether the snapshot was taken of controls with exactly these identifiers. -/
def isOf (s : Snapshot) (identifiers : List String) : Bool :=
  s.identifiers == identifiers

/-- A line with a key and a text. -/
def field (key value : String) : List Char :=
  key.toList ++ " = ".toList ++ Toml.quote value ++ ['\n']

/-- The identifiers, up to one of them on the same line and more of them on lines of their own. -/
def identifiersText : List String → List Char
  | [] => "identifiers = []\n".toList
  | [identifier] => "identifiers = [".toList ++ Toml.quote identifier ++ "]\n".toList
  | identifiers =>
    "identifiers = [\n".toList ++
      identifiers.flatMap (fun i => "    ".toList ++ Toml.quote i ++ ",\n".toList) ++ "]\n".toList

/-- The values, each as a table of its own. -/
def valuesText : List ControlValue → List Char
  | [] => "control = []\n".toList
  | values => values.flatMap fun v =>
    "\n[[control]]\n".toList ++
      field "device" v.device ++ field "control" v.control ++ field "value" v.value

/-- The text of a snapshot's file. -/
def text (s : Snapshot) : String :=
  String.ofList (identifiersText s.identifiers ++ valuesText s.values)

/-- Reads a control value. -/
def controlValue? (v : Toml.Value) : Option ControlValue := do
  let r ← Toml.Record.ofValue? false ["device", "control", "value"] v
  return {
    device := ← r.required "device" Toml.Value.text?
    control := ← r.required "control" Toml.Value.text?
    value := ← r.required "value" Toml.Value.text? }

/-- Reads a snapshot from a document. -/
def ofValue? (v : Toml.Value) : Option Snapshot := do
  let r ← Toml.Record.ofValue? false ["identifiers", "control"] v
  return {
    identifiers := ← r.withDefault "identifiers" [] (Toml.Value.list? Toml.Value.text?)
    values := ← r.withDefault "control" [] (Toml.Value.list? controlValue?) }

/-- Reads a snapshot from the text of its file. -/
def ofText (text : String) : Except TomlFault Snapshot :=
  match Toml.Value.ofText? text with
  | none => .error .malformed
  | some v =>
    match ofValue? v with
    | none => .error .layout
    | some s => .ok s

/-- Reads the snapshot in a file; there is none if the file is missing. -/
def load (fs : Files) (path : String) : Except ControlFault (Option Snapshot) :=
  if fs.contains path then do
    let text ← (fs.read path).mapError .system
    let s ← (ofText text).mapError fun fault => .snapshot fault.message
    return some s
  else .ok none

/-- Writes the snapshot to a file, after creating the directories on its way. -/
def save (s : Snapshot) (path : String) : EStateM ControlFault Files Unit :=
  (do
    Files.createParent path
    Files.write path s.text : EStateM SystemFault Files Unit).adaptExcept .system

end Snapshot

end UseCase
