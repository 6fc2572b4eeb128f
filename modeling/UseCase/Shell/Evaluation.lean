import UseCase.Shell.Call

/-!
# Commands at work

How a shell runs the commands of its grammar. A failure ends a shell that is set up for that, unless
something depends on it: the condition of a branch or a loop, a command in front of others that are
run only after its success or failure, and a command whose result is turned round. Commands may be
nested and functions may call themselves as deep as the memory for calls reaches; beyond that a
signal ends the shell.
-/

namespace UseCase.Shell

open Text (Bytes)

namespace Eval

/-! ### Loops -/

/-- One round of a loop: the status with which it goes on, or with which it ends. -/
def round (x : Eval (Except Nat Nat)) : Eval (Except Nat Nat) := do
  try x
  catch
    | .out levels => if levels ≤ 1 then return .error 0 else throw (.out (levels - 1))
    | .again levels =>
      if levels ≤ 1 then
        setStatus 0
        return .ok 0
      else throw (.again (levels - 1))
    | stop => throw stop

/-- Runs something as a loop. -/
def inLoop (x : Eval Nat) : Eval Nat := do
  let loops := (← self).loops
  change fun p => { p with loops := loops + 1 }
  before x (change fun p => { p with loops := loops })

/-- At most this many rounds are counted. -/
def maxRounds : Nat := Text.wordCount 62

/-- Runs a body as long as a condition does not end the loop. -/
def rounds (run : Runner) (mode : Mode) (negated : Bool) (condition body : Command) :
    (fuel status : Nat) → Eval Nat
  | 0, status => return status
  | fuel + 1, status => do
    let result ← round do
      let fails := (← run .tested condition) != 0
      if fails != negated then return .error status
      return .ok (← run mode body)
    match result with
    | .error status => return status
    | .ok status => rounds run mode negated condition body fuel status

/-- Runs a body for each of some texts. -/
def forEach (run : Runner) (mode : Mode) (name : Bytes) (body : Command) :
    (status : Nat) → List Bytes → Eval Nat
  | status, [] => return status
  | _, cs :: rest => do
    assign name cs
    match ← round (do return .ok (← run mode body)) with
    | .error status => return status
    | .ok status => forEach run mode name body status rest

/-- The texts of a loop over words. -/
def loopTexts (run : Runner) : Option (List Word) → Eval (List Bytes)
  | none => do return (← self).arguments
  | some ws => do
    let texts ← ws.mapM (fields run)
    return texts.flatten

/-! ### Choices -/

/-- Whether one of some patterns matches a text. -/
def matchesAny (run : Runner) (cs : Bytes) : List Word → Eval Bool
  | [] => return false
  | w :: rest => do
    if (← pattern run w).isMatch cs then return true
    matchesAny run cs rest

/-- The command of the first arm that matches a text. -/
def armFor (run : Runner) (cs : Bytes) : List Arm → Eval Command
  | [] => return .nothing
  | .mk patterns body :: rest => do
    if ← matchesAny run cs patterns then return body
    armFor run cs rest

/-! ### Shells beside the shell -/

/-- Finds the program that a part of a pipeline calls, so that the shell knows it. -/
def lookAhead : Command → Eval Unit
  | .simple _ _ (w :: _) _ => do
    if let some name := Word.bare? w then
      if isName name then remember name
  | _ => pure ()

/-- Runs the parts of a pipeline, the first one with the given input. -/
def runParts (run : Runner) (mode : Mode) (input : Option Nat) : List Command → Eval Nat
  | [] => return 0
  | c :: rest => do
    lookAhead c
    let connectInput := if input.isSome then connect 0 input else pure ()
    match rest with
    | [] => inSubshell run do
      connectInput
      run mode c
    | rest =>
      let ((next, output), w) := (← world).openPipe
      changeWorld fun _ => w
      let _ ← inSubshell run do
        connectInput
        connect 1 (some output)
        run mode c
      runParts run mode (some next) rest

/-- Starts a command beside the shell. -/
def startJob (c : Command) : Eval Unit := do
  let job ← takeJob
  let p ← self
  let number := 1000 * p.number + p.started
  let bars := match c with
    | .pipeline parts => parts.length - 1
    | _ => 0
  let working := (← world).files.working
  modify fun s => { s with waiting := s.waiting ++ [⟨number, p, working, c⟩] }
  change fun p => { p with
    lastChild := some number
    started := p.started + 1
    children := ⟨number, job, bars, none, false, false⟩ :: p.children }

/-! ### Commands -/

/-- Runs a command whose parts are run by `run`. -/
def runOnce (run : Runner) (mode : Mode) : Command → Eval Nat
  | .nothing => return 0
  | .simple line as ws redirects => do
    change fun p => { p with line := line }
    runSimple run mode as ws redirects
  | .pipeline parts => runParts run mode none parts
  | .negate c => do return if (← run .tested c) = 0 then 1 else 0
  | .sequence first second => do
    let _ ← run mode first
    run mode second
  | .both first second => do
    let status ← run .tested first
    if status = 0 then run mode second else return status
  | .either first second => do
    let status ← run .tested first
    if status = 0 then return status else run mode second
  | .background c => do
    startJob c
    return 0
  | .subshell c => inSubshell run (run mode c)
  | .redirected (.subshell c) redirects => do
    let leads ← redirects.mapM (expandRedirect run)
    inSubshell run do
      if ← followAll run leads then run mode c else return failure
  | .redirected c redirects => redirecting run redirects (return failure) (run mode c)
  | .branch condition yes no => do
    if (← run .tested condition) = 0 then run mode yes else run mode no
  | .loop negated condition body => inLoop (rounds run mode negated condition body maxRounds 0)
  | .each name ws body => do
    let texts ← loopTexts run ws
    inLoop (forEach run mode name body 0 texts)
  | .choice subject arms => do
    run mode (← armFor run (← text run .word subject) arms)
  | .define name body => do
    change fun p =>
      { p with functions := (name, body) :: p.functions.filter fun (n, _) => n != name }
    return 0

/-- Acts on the signals that have arrived. -/
def actOnSignals (run : Runner) : Eval Unit := do
  let p ← self
  let (mine, others) := (← world).arrived.partition fun (process, _) => process == p.number
  unless p.isPart || mine.isEmpty do
    changeWorld fun w => { w with arrived := others }
    p.actions.forM fun (signal, action) => do
      if mine.any fun (_, n) => n == signal then
        let _ ← runText run .plain action
    setStatus p.status

/-- Whether a failure of a command may end the shell. -/
def isDecisive : Command → Bool
  | .simple _ _ _ _ | .pipeline _ | .subshell _ | .background _ => true
  | .redirected (.subshell _) _ => true
  | _ => false

/-- Runs a command and does what follows from its end. -/
def runFully (run : Runner) : Runner := fun mode c => do
  if ← isOn .noexec then return (← self).status
  let status ← runOnce run mode c
  setStatus status
  actOnSignals run
  if status != 0 && mode == .plain && isDecisive c && (← isOn .errexit) then
    throw (.exit status true)
  return status

/-- Runs commands that nest at most `depth` deep. -/
def runNested : (depth : Nat) → Runner
  | 0 => fun _ _ => do throw (.killed (← self).number Signal.overflow)
  | depth + 1 => runFully (runNested depth)

/-- How deep the memory for calls reaches. -/
def maxNesting : Nat := 20000

/-- Runs a command. -/
def run : Runner := runNested maxNesting

end Eval

end UseCase.Shell
