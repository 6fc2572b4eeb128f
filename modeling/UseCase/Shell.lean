import UseCase.Shell.Evaluation

/-!
# Command lines

The commands of a card's sequences are run by a shell, which knows the files, the standard input and
the variables of the environment. `run` answers with what became of them, with what was printed and
told, and with how the command line ended.
-/

namespace UseCase.Shell

open Text (Bytes)

/-- What a command line leaves behind. -/
structure Outcome where
  files : Files
  /-- The rest of the standard input. -/
  input : Bytes
  printed : Bytes
  complaints : Bytes
  ending : Ending

/-- The streams of the standard input, the standard output and the standard error. -/
def standardStreams : Array Stream :=
  #[⟨.input, 0, false, true, false⟩, ⟨.printed, 0, false, false, true⟩,
    ⟨.complaints, 0, false, false, true⟩]

/-- The channels of the standard streams. -/
def standardChannels : List (Nat × Nat) :=
  [(0, 0), (1, 1), (2, 2)]

/-- The state of a shell before it runs anything. -/
def State.start (files : Files) (input : Bytes) (environment : List (String × String)) : State :=
  let working := FileName.pathOf files.working
  let given := environment.map fun (name, value) => (Text.bytes name, Text.bytes value)
  let bindings := Process.firstBindings 1 working given
  { world := ⟨files, input, [], [], #[], standardStreams, []⟩
    self := Process.start 2 1 "sh".toList bindings standardChannels
    waiting := [] }

/-- Runs a command line as the shell's first operand. One that starts like an option is taken for an
option, which leaves nothing to run. -/
def runLine (text : String) : Eval Nat := do
  match Invocation.ofArguments ["-c".toList, Text.bytes text] with
  | .ok ⟨_, _, script :: _⟩ =>
    Eval.toEnd Eval.run (Eval.runText Eval.run .plain script)
  | .ok ⟨_, _, []⟩ => do
    Eval.tell "sh: 0: -c requires an argument"
    return Eval.failure
  | .error reason => do
    Eval.tell ("sh: 0: " ++ reason)
    return Eval.failure

/-- Runs a command line. -/
def run (text : String) (files : Files) (input : Bytes) (environment : List (String × String)) :
    Outcome :=
  let whole := Eval.before (runLine text) (Eval.settle Eval.run)
  let (ending, s) : Ending × State := match whole (State.start files input environment) with
    | .ok status s => (.exited (status % 256), s)
    | .error (.killed _ signal) s => (.killed signal, s)
    | .error _ s => (.exited Eval.failure, s)
  { files := { s.world.files with working := files.working }
    input := s.world.input
    printed := s.world.printed.reverse.flatten
    complaints := s.world.complaints.reverse.flatten
    ending := ending }

end UseCase.Shell
