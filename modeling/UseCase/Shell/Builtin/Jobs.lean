import UseCase.Shell.Builtin.Variables

/-!
# Commands of the shell for signals and jobs

Actions for signals, and the commands that were started beside the shell: signals for them, their
statuses and their states. There is no terminal from which they could be brought back.
-/

namespace UseCase.Shell.Builtin

open Text (Bytes)
open Eval

/-- The number of a signal for which an action can be set. -/
def signal? (cs : Bytes) : Option Nat :=
  let text := Text.ofBytes cs
  if text.toUpper = "EXIT" then some 0 else Signal.ofText? text

/-- Actions with another one for a signal, or without one for it. -/
def setAction (n : Nat) (action : Option Bytes) (actions : List (Nat × Bytes)) :
    List (Nat × Bytes) :=
  let (before, after) := (actions.filter fun (m, _) => m != n).partition fun (m, _) => m < n
  before ++ (action.map fun a => (n, a)).toList ++ after

/-- Sets actions for signals, or lists them. -/
def trap : Builtin := fun _ _ args => do
  let (_, args) ← options "" "" args
  match args with
  | [] =>
    let name := fun (n : Nat) => if n = 0 then "EXIT" else Signal.label n
    print ((← self).actions.flatMap fun (n, action) =>
      "trap -- ".toList ++ inApostrophes action ++ ' ' :: (name n).toList ++ ['\n'])
  | first :: rest =>
    let isReset := rest.isEmpty || (Text.digits? first).any (· ≤ 64)
    let names := if isReset then args else rest
    let action := if isReset || first = ['-'] then none else some first
    let setAll : List Bytes → Eval Nat := fun names => do
      names.forM fun name => do
        if let some n := signal? name then
          change fun p => { p with actions := setAction n action p.actions }
      return 0
    let known := names.takeWhile fun name => (signal? name).isSome
    match names.drop known.length with
    | [] => setAll known
    | name :: _ =>
      let _ ← setAll known
      tell s!"trap: {Text.ofBytes name}: bad trap"
      return 1

/-- The child that a text names: by its number, or as the last or the one before. -/
def job? (name : Bytes) : Eval Child := do
  let children := (← self).children
  let missing : Eval Child := fail s!"No such job: {Text.ofBytes name}"
  let pick := fun (child : Option Child) (text : String) => match child with
    | some c => pure c
    | none => fail text
  match name with
  | ['%'] | ['%', '%'] | ['%', '+'] => pick children.head? "No current job"
  | ['%', '-'] => pick children[1]? "No previous job"
  | '%' :: digits =>
    match (Text.digits? digits).bind fun n => children.find? fun c => c.job == n with
    | some c => return c
    | none => missing
  | _ => missing

/-- Notes something about a child. -/
def changeChild (process : Nat) (f : Child → Child) : Eval Unit :=
  change fun p =>
    { p with children := p.children.map fun c => if c.process = process then f c else c }

/-- Sends a signal to a process of the shell. -/
def sendTo (signal process : Nat) : Eval Nat := do
  let p ← self
  if process = p.number ∨ process = p.parent then
    send process signal
    return 0
  else if (← get).waiting.any fun job => job.number == process then
    unless Signal.isIdle signal do
      modify fun s => { s with waiting := s.waiting.filter fun job => job.number != process }
      changeChild process fun c => { c with ending := some (.killed signal) }
    return 0
  else
    complain "No such process\n"
    return 1

/-- Sends signals to processes. -/
def sendAll (signal : Nat) (processes : List Bytes) : Eval Nat := do
  if processes.isEmpty then
    fail ("Usage: kill [-s sigspec | -signum | -sigspec] [pid | job]... or\n" ++
      "kill -l [exitstatus]")
  processes.foldlM (fun status arg => do
    if arg.head? = some '%' ∨ arg.head? = some '-' then
      let _ ← if arg.head? = some '%' then pure 0 <* job? arg else number (arg.drop 1)
      complain "No such process\n"
      return 1
    return max status (← sendTo signal (← number arg))) 0

/-- Prints the name of a signal, which may be given by the status of a command that it ended. -/
def printSignal (arg : Bytes) : Eval Nat := do
  let n ← number arg
  let signal := if 128 < n then n - 128 else n
  if n = 0 ∨ 64 < signal then
    fail s!"invalid signal number or exit status: {Text.ofBytes arg}"
  printLine (Signal.label signal)

/-- Sends signals, or prints their names. -/
def kill : Builtin := fun _ _ args => do
  let named := fun (name : Bytes) (processes : List Bytes) => do
    match Signal.ofText? (Text.ofBytes name) with
    | some signal => sendAll signal processes
    | none => fail s!"invalid signal number or name: {Text.ofBytes name}"
  let behind := fun (processes : List Bytes) =>
    if processes.head? = some ['-', '-'] then processes.drop 1 else processes
  match args with
  | ['-', 'l'] :: arg :: _ => printSignal arg
  | [['-', 'l']] =>
    print ((List.range 65).flatMap fun n => (Signal.label n).toList ++ ['\n'])
  | ['-', 's'] :: name :: processes => named name (behind processes)
  | [['-', 's']] => fail "No arg for -s option"
  | ['-', '-'] :: processes => sendAll Signal.terminate processes
  | ('-' :: 's' :: c :: name) :: processes =>
    match Signal.ofText? (Text.ofBytes ('s' :: c :: name)) with
    | some signal => sendAll signal processes
    | none => named (c :: name) (behind processes)
  | ('-' :: c :: name) :: processes =>
    match Signal.ofText? (Text.ofBytes (c :: name)) with
    | some signal => sendAll signal processes
    | none => fail s!"Illegal option -{c}"
  | processes => sendAll Signal.terminate processes

/-- The status of a child for which the shell has waited; it tells which signal has ended it, if that
is news. -/
def await (child : Child) : Eval Nat := do
  changeChild child.process fun c => { c with isAwaited := true, isNoticed := true }
  if let some (.killed signal) := child.ending then
    unless child.isNoticed || (Signal.description signal).isEmpty do
      tell (Signal.description signal)
  return (child.ending.map Ending.status).getD 0

/-- Waits for commands that were started beside the shell. -/
def wait : Builtin := fun run _ args => do
  settle run
  let (_, args) ← options "" "" args
  if args.isEmpty then
    change fun p => { p with children := p.children.map fun c => { c with isAwaited := true } }
    return 0
  args.foldlM (fun _ arg => do
    if arg.head? = some '%' then await (← job? arg)
    else
      let n ← number arg
      match (← self).children.find? fun c => c.process == n with
      | some child => await child
      | none => return 127) 0

/-- The state of a child, as a line. -/
def stateLine (mark : Char) (child : Child) : String :=
  let front := s!"[{child.job}] {mark} "
  let state := match child.ending with
    | none => "Running"
    | some (.exited 0) => "Done"
    | some (.exited n) => s!"Done({n})"
    | some (.killed n) => Signal.title n
  let gap := 33 - front.length - state.length
  front ++ state ++ String.ofList (List.replicate (max 1 gap) ' ') ++
    String.join (List.replicate child.bars " | ") ++ "\n"

/-- Prints the state of a child, which is forgotten when it has ended. -/
def printState (child : Child) : Eval Unit := do
  let children := (← self).children
  let mark := fun (c : Option Child) => c.any fun c => c.process == child.process
  let mark := if mark children.head? then '+' else if mark children[1]? then '-' else ' '
  let _ ← print (stateLine mark child).toList
  if child.ending.isSome then
    change fun p => { p with children := p.children.filter fun c => c.process != child.process }

/-- Prints the states of the commands that were started beside the shell. -/
def listJobs : Builtin := fun _ _ args => do
  let (found, names) ← options "lp" "" args
  let children ← if names.isEmpty then do pure (← self).children else names.mapM job?
  if has 'p' found then
    print (children.flatMap fun c => (toString c.process).toList ++ ['\n'])
  else
    children.forM printState
    return 0

/-- Refuses to bring commands back that were started beside the shell. -/
def withoutJobs : Builtin := fun _ _ args => do
  let (_, names) ← options "" "" args
  let name := (names.head?.map Text.ofBytes).getD "(null)"
  let _ ← job? (names.headD ['%'])
  fail s!"job {name} not created under job control"

end UseCase.Shell.Builtin
