import UseCase.Backend

/-!
# Running sequences

A sequence is run action by action, and each step goes to the control surface as soon as it is
reached. Calls nest to a depth of eight, and a control device chosen inside a call is in force there
only. The steps are counted over all calls, so that a fault tells how many were sent before it.
-/

namespace UseCase.Sequence

/-- Calls nest at most this deep. -/
def maxDepth : Nat := 8

/-- The sequence that a call runs; `verb` holds the entities that can be called. -/
def callee (verb : Option Verb) (kind : Kind) (name : String) (phase : Phase) :
    Except CallFault Sequence :=
  match verb with
  | none => .error (.outsideVerb kind name)
  | some v =>
    match (v.find? kind name).bind (v.entity? kind) with
    | none => .error (.unknown kind name)
    | some e => .ok (e.sequence phase)

section

variable {σ : Type} (b : Backend σ) (label : String)

/-- A run of a sequence that starts with some control device after some steps; it answers with the
number of steps by its end. -/
abbrev Runner (σ : Type) := Option String → Nat → Sequence → EStateM Fault σ Nat

/-- Sends one step; `count` steps were sent before. -/
def sendStep (count : Nat) (step : Step) : EStateM Fault σ Unit :=
  (b.apply step).adaptExcept (Fault.sequence label count)

/-- Runs what a call leads to with `nested`, unless the depth is used up. -/
def runCall (nested : Option (Runner σ)) (verb : Option Verb) (device : Option String) (count : Nat)
    (kind : Kind) (name : String) (phase : Phase) : EStateM Fault σ Nat :=
  match nested with
  | none => throw (.configuration (.call label (.tooDeep maxDepth)))
  | some runner =>
    match callee verb kind name phase with
    | .error cause => throw (.configuration (.call label cause))
    | .ok s => runner device count s

/-- Runs a sequence whose calls are run by `nested`. -/
def runWith (nested : Option (Runner σ)) (verb : Option Verb) : Runner σ
  | _, count, [] => pure count
  | _, count, .controlDevice name :: rest => runWith nested verb (some name) count rest
  | device, count, .write control value :: rest => do
    sendStep b label count (.set device control value)
    runWith nested verb device (count + 1) rest
  | device, count, .command text :: rest => do
    sendStep b label count (.execute text)
    runWith nested verb device (count + 1) rest
  | device, count, .pause duration :: rest => do
    sendStep b label count (.sleep duration)
    runWith nested verb device (count + 1) rest
  | device, count, .call kind name phase :: rest => do
    let count ← runCall label nested verb device count kind name phase
    runWith nested verb device count rest

/-- Runs a sequence whose calls may nest `depth` deep. -/
def runAt (verb : Option Verb) : (depth : Nat) → Runner σ
  | 0 => runWith b label none verb
  | depth + 1 => runWith b label (some (runAt verb depth)) verb

end

/-- Runs a sequence on a control surface. -/
def run {σ : Type} (b : Backend σ) (device : Option String) (label : String) (verb : Option Verb)
    (s : Sequence) : EStateM Fault σ Unit := do
  let _ ← runAt b label verb maxDepth device 0 s

end UseCase.Sequence
