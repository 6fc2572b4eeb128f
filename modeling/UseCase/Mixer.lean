import UseCase.Backend
import UseCase.Shell
import UseCase.Snapshot

/-!
# A mixer in memory

A control surface that keeps control values itself. It accepts the controls whose identifiers it was
given, or all controls if it was given none. At start-up it remembers the values as a snapshot, in
memory and, with a state file, in that file too; a snapshot of other identifiers counts as changed
controls. A desk is such a mixer on a host, which has the files and to which commands and pauses
happen.
-/

namespace UseCase

/-- What a program does that can be noticed while it runs. -/
inductive Event where
  | print (text : String)
  /-- A text on the standard error. -/
  | complain (text : String)
  | wait (nanoseconds : Nat)
  deriving DecidableEq, Repr

/-- The surroundings of a program. -/
structure Host where
  files : Files
  /-- The rest of the standard input. -/
  input : Text.Bytes
  /-- The variables of the environment. -/
  environment : List (String × String)
  /-- What happened so far, the latest first. -/
  events : List Event

namespace Host

/-- A host with some files on which nothing has happened. -/
def ofFiles (files : Files) : Host :=
  ⟨files, [], [], []⟩

/-- The host after one more event. -/
def emit (h : Host) (e : Event) : Host :=
  { h with events := e :: h.events }

/-- The host after a command line. -/
def after (h : Host) (o : Shell.Outcome) : Host :=
  let h := { h with files := o.files, input := o.input }
  (h.emit (.print (Text.ofBytes o.printed))).emit (.complain (Text.ofBytes o.complaints))

end Host

/-- A mixer in memory. -/
structure Mixer where
  /-- The values of the controls of each control device. -/
  values : Register (Register String)
  /-- The controls that are accepted; all are if there is none. -/
  identifiers : Register Unit
  /-- Whether pauses take their time. -/
  pauses : Bool
  /-- Whether commands are run. -/
  executes : Bool
  /-- The snapshot in memory. -/
  cached : Option Snapshot
  stateFile : Option String

namespace Mixer

/-- The control device of writes that name none. -/
def defaultDevice : String := "default"

/-- A mixer without values. -/
def create (identifiers : List String) (pauses executes : Bool) (stateFile : Option String) :
    Mixer where
  values := .empty
  identifiers := .ofList (identifiers.map fun i => (i, ()))
  pauses := pauses
  executes := executes
  cached := none
  stateFile := stateFile

/-- Whether a control may be written. -/
def accepts (m : Mixer) (control : String) : Bool :=
  m.identifiers.entries.isEmpty || m.identifiers.contains control

/-- The value of a control. -/
def value? (m : Mixer) (device control : String) : Option String :=
  (m.values.get? device).bind fun controls => controls.get? control

/-- All values, by control device and then by control. -/
def allValues (m : Mixer) : List ControlValue :=
  m.values.entries.flatMap fun (device, controls) =>
    controls.entries.map fun (control, value) => ⟨device, control, value⟩

/-- Gives a control a value. -/
def assign (m : Mixer) (v : ControlValue) : Mixer :=
  let controls := (m.values.get? v.device).getD .empty
  { m with values := m.values.insert v.device (controls.insert v.control v.value) }

/-- Gives a control a value if it may be written. -/
def assignAccepted (m : Mixer) (v : ControlValue) : Mixer :=
  if m.accepts v.control then m.assign v else m

/-- The snapshot of the mixer as it is. -/
def snapshot (m : Mixer) : Snapshot :=
  ⟨m.identifiers.names, m.allValues⟩

end Mixer

/-- A mixer on a host. -/
structure Desk where
  mixer : Mixer
  host : Host

namespace Desk

/-- Writes a control. -/
def write (v : ControlValue) : EStateM ControlFault Desk Unit := do
  if (← get).mixer.accepts v.control then modify fun d => { d with mixer := d.mixer.assign v }
  else throw (.rejected v.control "no such control")

/-- Runs a command. -/
def execute (command : String) : EStateM ControlFault Desk Unit := do
  let d ← get
  if d.mixer.executes then
    if command.toList.contains '\x00' then throw (.system .nulInCommand)
    let outcome := Shell.run command d.host.files d.host.input d.host.environment
    set { d with host := d.host.after outcome }
    match outcome.ending with
    | .exited 0 => pure ()
    | failed => throw (.commandFailed command failed.text)

/-- Waits. -/
def pause (nanoseconds : Nat) : EStateM ControlFault Desk Unit := do
  if (← get).mixer.pauses then
    modify fun d => { d with host := d.host.emit (.wait nanoseconds) }

/-- The snapshot in memory, or else the one of the state file, which is then kept in memory. -/
def stored : EStateM ControlFault Desk (Option Snapshot) := do
  let d ← get
  match d.mixer.cached, d.mixer.stateFile with
  | some s, _ => return some s
  | none, none => return none
  | none, some path => do
    let s ← ofExcept (Snapshot.load d.host.files path)
    modify fun d => { d with mixer := { d.mixer with cached := s } }
    return s

/-- Whether there is no snapshot of controls with the mixer's identifiers. -/
def changed : EStateM ControlFault Desk Bool := do
  let s ← stored
  let d ← get
  return !(s.any fun s => s.isOf d.mixer.identifiers.names)

/-- Acts on the files alone. -/
def onFiles {ε α : Type} (x : EStateM ε Files α) : EStateM ε Desk α :=
  onPart (fun d => d.host.files)
    (fun d files => { d with host := { d.host with files := files } }) x

/-- Takes a snapshot, in the state file first. -/
def store : EStateM ControlFault Desk Unit := do
  let d ← get
  let s := d.mixer.snapshot
  match d.mixer.stateFile with
  | some path => onFiles (s.save path)
  | none => pure ()
  modify fun d => { d with mixer := { d.mixer with cached := some s } }

/-- Writes the values of the snapshot back to the controls that may be written. -/
def restore : EStateM ControlFault Desk Unit := do
  match ← stored with
  | none => throw (.snapshot "No stored control snapshot")
  | some s =>
    modify fun d => { d with mixer := s.values.foldl Mixer.assignAccepted d.mixer }

/-- The desk as a control surface. -/
def backend : Backend Desk where
  apply
    | .set device control value => write ⟨device.getD Mixer.defaultDevice, control, value⟩
    | .execute command => execute command
    | .sleep nanoseconds => pause nanoseconds
  changed := changed
  store := store
  restore := restore

end Desk

end UseCase
