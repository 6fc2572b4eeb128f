import UseCase.Shell.Process

/-!
# Texts and subshells

How a shell runs a text line by line, how it ends, and how a part of a command is run by a shell of
its own. What a subshell does to the world stays; its own state is thrown away.
-/

namespace UseCase.Shell

open Text (Bytes)

namespace Eval

/-- Reads the next line of a text; the rest of it comes with it. -/
def nextLine (text : Bytes) (line : Nat) : Eval (Option (Command × Bytes × Nat)) := do
  let p ← self
  let source : Source := ⟨text, line, none, [], p.documents, p.aliases, []⟩
  match Read.line source with
  | .ok none _ => return none
  | .ok (some c) s =>
    change fun p => { p with documents := s.documents }
    return some (c, s.rest, s.line)
  | .error fault s =>
    change fun p => { p with line := s.line }
    fail ("Syntax error: " ++ fault.message)

/-- Runs the lines of a text, at most `fuel` of them; `status` is that of the line before. -/
def runLines (run : Runner) (mode : Mode) :
    (fuel : Nat) → Bytes → (line status : Nat) → Eval Nat
  | 0, _, _, status => return status
  | fuel + 1, text, line, status => do
    match ← nextLine text line with
    | none => return status
    | some (.nothing, rest, line) => runLines run mode fuel rest line status
    | some (c, rest, line) =>
      let status ← run mode c
      runLines run mode fuel rest line status

/-- Runs a text. -/
def runText (run : Runner) (mode : Mode) (text : Bytes) : Eval Nat :=
  runLines run mode (text.length + 1) text 1 0

/-- The status of a shell that failed. -/
def failure : Nat := 2

/-- Runs the last action of a shell that ends with a status. -/
def finish (run : Runner) (status : Nat) : Eval Nat := do
  match ((← self).actions.find? fun (n, _) => n == 0).map Prod.snd with
  | none => return status
  | some action =>
    change fun p => { p with actions := p.actions.filter fun (n, _) => n != 0, status := status }
    try
      let _ ← runText run .plain action
      return status
    catch
      | .exit status _ => return status
      | .failed => return failure
      | stop@(.killed _ _) => throw stop
      | _ => return status

/-- Runs something as a whole shell; its end gives the status. -/
def toEnd (run : Runner) (x : Eval Nat) : Eval Nat := do
  try
    finish run (← x)
  catch
    | .exit status acts => if acts then finish run status else return status
    | .failed => finish run failure
    | .back status => finish run status
    | stop@(.killed _ _) => throw stop
    | .out _ | .again _ => finish run 0

/-- Does something and then, in any case, something else. -/
def before {α : Type} (x : Eval α) (afterwards : Eval Unit) : Eval α := do
  try
    let a ← x
    afterwards
    return a
  catch stop =>
    afterwards
    throw stop

/-- Runs something as the shell's own command with a name, which complaints tell. -/
def named {α : Type} (name : Bytes) (x : Eval α) : Eval α := do
  let outer := (← self).command
  change fun p => { p with command := name }
  before x (change fun p => { p with command := outer })

/-- Runs something with the state of the shell given back afterwards. -/
def restoring {α : Type} (x : Eval α) : Eval α := do
  let s ← get
  let giveBack := fun (t : State) =>
    let files := { t.world.files with working := s.world.files.working }
    { t with self := s.self, world := { t.world with files := files } }
  try
    let a ← x
    modify giveBack
    return a
  catch stop =>
    modify giveBack
    throw stop

/-- Runs something as a part of the shell, which keeps of the actions only those that let signals
pass. -/
def asPart (run : Runner) (x : Eval Nat) : Eval Nat :=
  restoring do
    change fun p =>
      { p with
        actions := p.actions.filter fun (n, action) => n != 0 && action.isEmpty
        outerActions := if p.isPart then p.outerActions else p.actions
        isPart := true
        children := [] }
    toEnd run x

/-- Runs a command that was started beside the shell. -/
def runJob (run : Runner) (job : Job) : Eval Unit := do
  let status ← restoring do
    change fun _ => job.shell
    changeWorld fun w => { w with files := { w.files with working := job.working } }
    asPart run do
      let _ ← openFor 0 .read "/dev/null"
      run .plain job.body
  change fun p => { p with children := p.children.map fun c =>
    if c.process = job.number then { c with ending := some (.exited status) } else c }

/-- Gives the commands their turn that were started beside the shell, without those that pause first
if `isBrief` tells so; those that they start follow, at most `fuel` times. -/
def settleWithin (run : Runner) (isBrief : Bool) : (fuel : Nat) → Eval Unit
  | 0 => pure ()
  | fuel + 1 => do
    let (later, jobs) := (← get).waiting.partition fun job => isBrief && job.body.pauses
    unless jobs.isEmpty do
      modify fun s => { s with waiting := later }
      jobs.forM (runJob run)
      settleWithin run isBrief fuel

/-- Gives all commands their turn that were started beside the shell. -/
def settle (run : Runner) : Eval Unit :=
  settleWithin run false 1000

/-- The first number for a job that is free, or that of one for which the shell has waited. -/
def freeJob (children : List Child) : (fuel job : Nat) → Nat
  | 0, job => job
  | fuel + 1, job =>
    match children.find? fun c => c.job == job with
    | none => job
    | some c => if c.ending.isSome && c.isAwaited then job else freeJob children fuel (job + 1)

/-- Takes a number for a job; the one that had it, if any, is forgotten. -/
def takeJob : Eval Nat := do
  let children := (← self).children
  let job := freeJob children children.length 1
  change fun p => { p with children := p.children.filter fun c => c.job != job }
  return job

/-- Gets ready for a process for which the shell waits; meanwhile it notices which others have ended.
-/
def prepareProcess (run : Runner) : Eval Unit := do
  settleWithin run true 1000
  change fun p => { p with children := p.children.map fun c =>
    { c with isNoticed := c.isNoticed || c.ending.isSome } }
  let _ ← takeJob

/-- Runs something in a subshell, for which the shell waits. -/
def inSubshell (run : Runner) (x : Eval Nat) : Eval Nat := do
  prepareProcess run
  asPart run x

/-- Runs something in a subshell and takes what it prints. -/
def capture (run : Runner) (x : Eval Nat) : Eval (Bytes × Nat) := do
  let ((input, output), w) := (← world).openPipe
  changeWorld fun _ => w
  let status ← inSubshell run do
    connect 1 (some output)
    x
  settle run
  let w ← world
  let bs := (w.streams[input]?.map w.rest).getD []
  return (bs, status)

end Eval

end UseCase.Shell
