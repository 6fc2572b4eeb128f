import UseCase.Execution

/-!
# Plans

A plan is what a sequence comes to as a whole: all steps that it sends to a control surface that
accepts them, and the call that stops it, if one does. Performing a plan sends its steps in order up
to the first one that the surface refuses, which is what running the sequence does.
-/

namespace UseCase

/-- The steps of a sequence and the call at which it ends early. -/
structure Plan where
  steps : List Step
  fault : Option CallFault
  deriving DecidableEq, Repr

namespace Plan

/-- The plan without steps. -/
def done : Plan := ⟨[], none⟩

/-- The plan that a call stops at once. -/
def stop (cause : CallFault) : Plan := ⟨[], some cause⟩

/-- One step before a plan. -/
def cons (step : Step) (p : Plan) : Plan := ⟨step :: p.steps, p.fault⟩

/-- One plan and then, unless a call stopped it, another. -/
def andThen (p q : Plan) : Plan :=
  match p.fault with
  | some _ => p
  | none => ⟨p.steps ++ q.steps, q.fault⟩

/-- Sends steps in order; `count` steps were sent before. The first refusal ends the run. -/
def send {σ : Type} (b : Backend σ) (label : String) :
    (count : Nat) → List Step → EStateM Fault σ Unit
  | _, [] => pure ()
  | count, step :: rest => do
    Sequence.sendStep b label count step
    send b label (count + 1) rest

/-- Performs a plan on a control surface. -/
def perform {σ : Type} (b : Backend σ) (label : String) (p : Plan) : EStateM Fault σ Unit := do
  send b label 0 p.steps
  match p.fault with
  | none => pure ()
  | some cause => throw (.configuration (.call label cause))

end Plan

namespace Sequence

/-- The plan of a call; `nested` expands the called sequence, unless the depth is used up. -/
def planCall (nested : Option (Option String → Sequence → Plan)) (verb : Option Verb)
    (device : Option String) (kind : Kind) (name : String) (phase : Phase) : Plan :=
  match nested with
  | none => .stop (.tooDeep maxDepth)
  | some expand =>
    match callee verb kind name phase with
    | .error cause => .stop cause
    | .ok s => expand device s

/-- The plan of a sequence that starts with the given control device. -/
def planWith (nested : Option (Option String → Sequence → Plan)) (verb : Option Verb) :
    Option String → Sequence → Plan
  | _, [] => .done
  | _, .controlDevice name :: rest => planWith nested verb (some name) rest
  | device, .write control value :: rest =>
    .cons (.set device control value) (planWith nested verb device rest)
  | device, .command text :: rest => .cons (.execute text) (planWith nested verb device rest)
  | device, .pause duration :: rest => .cons (.sleep duration) (planWith nested verb device rest)
  | device, .call kind name phase :: rest =>
    (planCall nested verb device kind name phase).andThen (planWith nested verb device rest)

/-- The plan of a sequence whose calls may nest `depth` deep. -/
def planAt (verb : Option Verb) : (depth : Nat) → Option String → Sequence → Plan
  | 0 => planWith none verb
  | depth + 1 => planWith (some (planAt verb depth)) verb

/-- The plan of a sequence; `verb` holds the entities that it may call. -/
def plan (verb : Option Verb) (device : Option String) (s : Sequence) : Plan :=
  planAt verb maxDepth device s

end Sequence

end UseCase
