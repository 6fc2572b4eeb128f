import UseCase.Shell.Limit
import UseCase.Shell.NameTable
import UseCase.Shell.Pattern
import UseCase.Shell.Permission
import UseCase.Shell.Reader
import UseCase.Shell.Setting
import UseCase.Shell.Signal
import UseCase.Shell.World

/-!
# Shells at work

The state of a shell: its variables, functions, arguments, settings, channels and actions for
signals. A subshell starts with a copy of it, which is thrown away at its end, while the world stays
changed. Everything that a shell does is a function on this state; it answers with a result, or with
the reason why the commands that follow are passed over.
-/

namespace UseCase.Shell

open Text (Bytes)

/-- The value of a variable, if it has one, and how it is marked. -/
structure Variable where
  value : Option Bytes
  exported : Bool
  isFixed : Bool

/-- What a function hides: variables, and the settings of the shell if they are to come back. -/
structure Scope where
  former : List (Bytes × Option Variable)
  settings : Option (List Setting)

/-- A command that was started beside a shell. -/
structure Child where
  process : Nat
  /-- The number by which the shell knows it. -/
  job : Nat
  /-- The number of bars in it. -/
  bars : Nat
  /-- How it ended, if it did. -/
  ending : Option Ending
  /-- Whether the shell has waited for it. -/
  isAwaited : Bool
  /-- Whether its end came up while the shell waited for something else. -/
  isNoticed : Bool

/-- The state of a shell. -/
structure Process where
  number : Nat
  /-- The number of the process that started the shell. -/
  parent : Nat
  /-- The name by which the shell was called. -/
  name : Bytes
  arguments : List Bytes
  bindings : List (Bytes × Variable)
  functions : List (Bytes × Command)
  /-- Other texts for the names of commands. -/
  aliases : List (Bytes × Bytes)
  /-- The paths where commands were found. -/
  found : List (Bytes × Bytes)
  documents : Array Word
  settings : List Setting
  /-- The actions for signals, in their order; an empty one lets the signal pass. Number zero is the
  end. -/
  actions : List (Nat × Bytes)
  /-- The actions of the shell that this one is a part of. -/
  outerActions : List (Nat × Bytes)
  /-- The status of the last command. -/
  status : Nat
  /-- The streams of the channels. -/
  channels : List (Nat × Nat)
  /-- The number of the last command that was started beside the shell. -/
  lastChild : Option Nat
  /-- The commands that were started beside the shell, the latest first. -/
  children : List Child
  /-- How many commands were started beside the shell. -/
  started : Nat
  /-- What functions hide, the innermost first. -/
  hidden : List Scope
  /-- The number of loops around the command. -/
  loops : Nat
  /-- Whether the shell is a part of another one. -/
  isPart : Bool
  line : Nat
  /-- The status of the last command whose output was taken. -/
  substituted : Nat
  /-- The number of the argument with the next option, from one on, and the number of bytes that
  were read of the one in front of it, if it has more options. -/
  optionIndex : Nat
  optionAt : Option Nat
  /-- The name of the shell's own command at work, empty if there is none. -/
  command : Bytes
  /-- The permissions that new files do not get. -/
  mask : Nat
  limits : List Limit
  /-- What commands are given in place of the variables, if something else. -/
  given : Option (List (Bytes × Bytes))

/-- The variables that commands are given. -/
def Process.environment (p : Process) : List (Bytes × Bytes) :=
  p.given.getD <| (NameTable.listed NameTable.forNames p.bindings).filterMap fun (name, v) =>
    if v.exported then v.value.map fun value => (name, value) else none

/-- A command that is to be run beside a shell. -/
structure Job where
  number : Nat
  /-- The shell as it was when the command was started. -/
  shell : Process
  /-- The directory where the shell worked. -/
  working : List FileName
  body : Command

/-- The state of everything. -/
structure State where
  world : World
  self : Process
  /-- The commands that get their turn when the shell waits for something. -/
  waiting : List Job

/-- Why commands that follow are passed over. -/
inductive Stop where
  /-- The shell ends, after its last action unless it was replaced. -/
  | exit (status : Nat) (acts : Bool)
  /-- The command was used wrongly, which ends the shell or a command that is not a special one. -/
  | failed
  /-- A process is ended by a signal. -/
  | killed (process signal : Nat)
  /-- A function ends. -/
  | back (status : Nat)
  /-- Loops end. -/
  | out (levels : Nat)
  /-- Loops go on with their next round. -/
  | again (levels : Nat)
  deriving DecidableEq, Repr

/-- What a shell does. -/
abbrev Eval (α : Type) := EStateM Stop State α

/-- Whether a failure of a command has consequences or is only looked at. -/
inductive Mode where
  | plain
  | tested
  deriving DecidableEq, Repr

/-- A way to run commands; it answers with their status. -/
abbrev Runner := Mode → Command → Eval Nat

namespace Eval

/-- The shell that is at work. -/
def self : Eval Process := do
  return (← get).self

/-- Changes the shell. -/
def change (f : Process → Process) : Eval Unit :=
  modify fun s => { s with self := f s.self }

/-- The world. -/
def world : Eval World := do
  return (← get).world

/-- Changes the world. -/
def changeWorld (f : World → World) : Eval Unit :=
  modify fun s => { s with world := f s.world }

/-- Sets the status of the last command. -/
def setStatus (status : Nat) : Eval Unit :=
  change fun p => { p with status := status }

/-- Whether a setting is on. -/
def isOn (s : Setting) : Eval Bool := do
  return (← self).settings.contains s

/-! ### Channels -/

/-- The stream of a channel. -/
def stream? (channel : Nat) : Eval (Option (Nat × Stream)) := do
  let s ← get
  match (s.self.channels.find? fun (n, _) => n == channel).map Prod.snd with
  | none => return none
  | some index => return s.world.streams[index]?.map fun stream => (index, stream)

/-- Connects a channel with a stream, or closes it. -/
def connect (channel : Nat) (stream : Option Nat) : Eval Unit :=
  change fun p =>
    let others := p.channels.filter fun (n, _) => n != channel
    { p with channels := (stream.map fun index => (channel, index)).toList ++ others }

/-- Writes to a channel; answers whether that was possible. -/
def write (channel : Nat) (bs : Bytes) : Eval Bool := do
  match ← stream? channel with
  | some (index, stream) =>
    if stream.writes then
      unless bs.isEmpty do changeWorld fun w => w.write index bs
      return true
    return false
  | none => return false

/-- Prints something; the status tells whether that was possible. -/
def print (bs : Bytes) : Eval Nat := do
  if ← write 1 bs then return 0
  return 1

/-- Prints a line. -/
def printLine (text : String) : Eval Nat :=
  print (Text.bytes text ++ ['\n'])

/-- Tells something about a failure. -/
def tell (text : String) : Eval Unit := do
  let _ ← write 2 (Text.bytes text ++ ['\n'])

/-- Tells a failure together with the place where the shell stands. -/
def complain (text : String) : Eval Unit := do
  let p ← self
  let command := if p.command.isEmpty then "" else Text.ofBytes p.command ++ ": "
  tell s!"{Text.ofBytes p.name}: {p.line}: {command}{text}"

/-- Tells a failure that ends the shell. -/
def fail {α : Type} (text : String) : Eval α := do
  complain text
  throw .failed

/-- What a channel has to come; nothing if it cannot be read. -/
def upcoming (channel : Nat) : Eval (Option (Nat × Bytes)) := do
  match ← stream? channel with
  | some (index, stream) =>
    let w ← world
    return if stream.reads && !w.isDirectory stream then some (index, w.rest stream) else none
  | none => return none

/-- Reads a channel to its end. -/
def readAll (channel : Nat) : Eval (Option Bytes) := do
  match ← upcoming channel with
  | none => return none
  | some (index, bs) =>
    changeWorld fun w => w.advance index bs.length
    return some bs

/-- Reads a line, without the byte that ends it, and whether it was there. -/
def readLine (channel : Nat) : Eval (Option (Bytes × Bool)) := do
  match ← upcoming channel with
  | none => return none
  | some (index, bs) =>
    let line := bs.takeWhile (· != '\n')
    let isWhole := line.length < bs.length
    changeWorld fun w => w.advance index (line.length + if isWhole then 1 else 0)
    return some (line, isWhole)

/-- Opens a file for a channel. -/
def openFor (channel : Nat) (access : Access) (path : String) : Eval (Except SystemFault Unit) := do
  match (← world).openFile (Permission.forFile (← self).mask) access path with
  | .error cause => return .error cause
  | .ok (stream, w) =>
    let (index, w) := w.openStream stream
    changeWorld fun _ => w
    connect channel (some index)
    return .ok ()

/-! ### Variables -/

/-- A variable. -/
def binding? (name : Bytes) : Eval (Option Variable) := do
  return NameTable.get? name (← self).bindings

/-- The value of a variable. -/
def value? (name : Bytes) : Eval (Option Bytes) := do
  return (← binding? name).bind Variable.value

/-- The value of a variable, empty if it has none. -/
def valueOf (name : String) : Eval Bytes := do
  return (← value? name.toList).getD []

/-- The shell after one of its variables was replaced or removed. Where commands were found is
forgotten with the path on which they are searched, and the place among options follows its
variable. -/
def withVariable (name : Bytes) (v : Option Variable) (p : Process) : Process :=
  let p := { p with bindings := NameTable.put name v p.bindings }
  if name = "PATH".toList then { p with found := [] }
  else if name = "OPTIND".toList then
    let index := ((v.bind Variable.value).bind Text.digits?).getD 1
    { p with optionIndex := max 1 index, optionAt := none }
  else p

/-- Replaces a variable, or removes it. -/
def putVariable (name : Bytes) (v : Option Variable) : Eval Unit :=
  change (withVariable name v)

/-- Gives a variable a value. -/
def assign (name value : Bytes) : Eval Unit := do
  match ← binding? name with
  | some v =>
    if v.isFixed then fail s!"{Text.ofBytes name}: is read only"
    putVariable name (some { v with value := some value })
  | none =>
    putVariable name (some ⟨some value, ← isOn .allexport, false⟩)

/-! ### Signals -/

/-- Sends a signal to a shell; `process` is its number. -/
def send (process signal : Nat) : Eval Unit := do
  let p ← self
  let actions := if p.isPart then p.outerActions else p.actions
  let action := (actions.find? fun (n, _) => n == signal).map Prod.snd
  match if process = p.number ∧ !Signal.isFixed signal then action else none with
  | some action =>
    unless action.isEmpty do
      changeWorld fun w => { w with arrived := w.arrived ++ [(process, signal)] }
  | none => unless Signal.isIdle signal do throw (.killed process signal)

end Eval

end UseCase.Shell
