import UseCase.Backend
import UseCase.Loader

/-!
# A recording control surface

A control surface without hardware. It records the steps that it is given, refuses those that it was
told to refuse, and counts how often the control values were remembered and written back. Beside it
stands a loader that serves a single card.
-/

namespace UseCase

/-- The operations at start-up, one of which can be made to fail. -/
inductive BootCall where
  | changed
  | store
  | restore
  deriving DecidableEq, Repr

/-- A control surface that records what it is asked to do. -/
structure Recorder where
  /-- The accepted steps, the latest first. -/
  recorded : List Step
  failingControls : List String
  failingCommands : List String
  failingBoot : Option (BootCall × String)
  unchanged : Bool
  stores : Nat
  restores : Nat

namespace Recorder

/-- Nothing is recorded and nothing fails. -/
def fresh : Recorder := ⟨[], [], [], none, false, 0, 0⟩

/-- The accepted steps in order. -/
def steps (r : Recorder) : List Step :=
  r.recorded.reverse

/-- The controls that were written, in order. -/
def controls (r : Recorder) : List String :=
  r.steps.filterMap fun
    | .set _ control _ => some control
    | _ => none

/-- Forgets the recorded steps. -/
def clear (r : Recorder) : Recorder := { r with recorded := [] }

/-- Makes writes to a control fail. -/
def failOn (r : Recorder) (control : String) : Recorder :=
  { r with failingControls := control :: r.failingControls }

/-- Makes a command fail. -/
def failCommand (r : Recorder) (command : String) : Recorder :=
  { r with failingCommands := command :: r.failingCommands }

/-- Makes an operation at start-up fail, instead of any other. -/
def failBoot (r : Recorder) (call : BootCall) (reason : String) : Recorder :=
  { r with failingBoot := some (call, reason) }

/-- Lets everything succeed again. -/
def clearFailures (r : Recorder) : Recorder :=
  { r with failingControls := [], failingCommands := [], failingBoot := none }

/-- Why a step is refused, if it is. -/
def refusal? (r : Recorder) : Step → Option ControlFault
  | .set _ control _ =>
    if r.failingControls.contains control then some (.rejected control "injected failure") else none
  | .execute command =>
    if r.failingCommands.contains command then some (.commandFailed command "injected") else none
  | .sleep _ => none

/-- Records a step unless it is refused. -/
def apply (step : Step) : EStateM ControlFault Recorder Unit := fun r =>
  match r.refusal? step with
  | some fault => .error fault r
  | none => .ok () { r with recorded := step :: r.recorded }

/-- An operation at start-up that fails if it was told to. -/
def boot {α : Type} (call : BootCall) (x : Recorder → α × Recorder) :
    EStateM ControlFault Recorder α := fun r =>
  match r.failingBoot with
  | some (failing, reason) =>
    if failing = call then .error (.snapshot reason) r else .ok (x r).1 (x r).2
  | none => .ok (x r).1 (x r).2

/-- The recorder as a control surface. -/
def backend : Backend Recorder where
  apply := apply
  changed := boot .changed fun r => (!r.unchanged, r)
  store := boot .store fun r => ((), { r with stores := r.stores + 1 })
  restore := boot .restore fun r => ((), { r with restores := r.restores + 1 })

end Recorder

/-- A loader that serves one card under one file name. -/
def Loader.single (served : String) : Loader Card where
  load name := fun card =>
    let found := match name with
      | .named n | .strict n => n == served
      | _ => false
    if found then .ok card card else .error (.notFound (.card name)) card
  cards := fun card => .ok [.plain served] card

end UseCase
