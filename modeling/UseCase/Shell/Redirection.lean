import UseCase.Shell.Expansion

/-!
# Where channels lead

The redirections of a command take effect from left to right, after the words for files and channels
were expanded; a here-document is expanded when its turn comes. The first redirection that is refused
leaves the command undone. When the command has ended its channels lead again where they led before.
-/

namespace UseCase.Shell

open Text (Bytes)

/-- A redirection whose words for files and channels were expanded. -/
inductive Lead where
  | file (channel : Nat) (access : Access) (path : String)
  | duplicate (channel other : Nat)
  | closed (channel : Nat)
  /-- To a here-document with a number. -/
  | document (channel number : Nat)
  deriving DecidableEq, Repr

namespace Eval

/-- The redirection with its words expanded. -/
def expandRedirect (run : Runner) : Redirect → Eval Lead
  | .file channel access path => do
    return .file channel access (Text.ofBytes (← text run .word path))
  | .channel channel other => do
    let cs ← text run .word other
    if cs = ['-'] then return .closed channel
    match Text.digits? cs with
    | some n => return .duplicate channel n
    | none => fail "Syntax error: Bad fd number"
  | .document channel number => return .document channel number

/-- The channel that a path is another name of. -/
def channel? (path : String) : Option Nat :=
  match path with
  | "/dev/stdin" | "/dev/fd/0" => some 0
  | "/dev/stdout" | "/dev/fd/1" => some 1
  | "/dev/stderr" | "/dev/fd/2" => some 2
  | _ => none

/-- The wording for a file that cannot be opened. -/
def refusal (access : Access) (path : String) (cause : SystemFault) : String :=
  match access, cause with
  | .read, .missing | .read, .notDirectory => s!"cannot open {path}: No such file"
  | .read, _ => s!"cannot open {path}: {cause.reason}"
  | _, .missing | _, .notDirectory => s!"cannot create {path}: Directory nonexistent"
  | _, _ => s!"cannot create {path}: {cause.reason}"

/-- Has a channel lead where another one leads; answers whether that one leads anywhere. -/
def duplicate (channel other : Nat) : Eval Bool := do
  match ← stream? other with
  | some (index, _) =>
    connect channel (some index)
    return true
  | none =>
    complain s!"{other}: Bad file descriptor"
    return false

/-- Opens a file, unless it may not be there yet. -/
def openChecked (channel : Nat) (access : Access) (path : String) :
    Eval (Except SystemFault Unit) := do
  let isProtected := access == .write && (← isOn .noclobber)
  if isProtected && (← world).files.isFile path then return .error .alreadyExists
  openFor channel access path

/-- The text of a here-document, unless its expansion fails. -/
def documentText? (run : Runner) (number : Nat) : Eval (Option Bytes) := do
  let w := ((← self).documents[number]?).getD []
  try return some (← text run .quotes w)
  catch
    | .failed => return none
    | stop => throw stop

/-- Lets a redirection take effect; answers whether that was possible. -/
def follow (run : Runner) : Lead → Eval Bool
  | .file channel access path => do
    match channel? path with
    | some other => duplicate channel other
    | none =>
      match ← openChecked channel access path with
      | .ok _ => return true
      | .error cause =>
        complain (refusal access path cause)
        return false
  | .duplicate channel other => duplicate channel other
  | .closed channel => do
    connect channel none
    return true
  | .document channel number => do
    match ← documentText? run number with
    | none => return false
    | some content =>
      let ((input, output), w) := (← world).openPipe
      changeWorld fun _ => w.write output content
      connect channel (some input)
      return true

/-- Lets redirections take effect up to the first one that is refused; answers whether none was. -/
def followAll (run : Runner) : List Lead → Eval Bool
  | [] => return true
  | lead :: rest => do
    if ← follow run lead then followAll run rest else return false

/-- Runs something with redirections, or else what is to be done if one of them is refused. -/
def redirecting (run : Runner) (redirects : List Redirect) (refused x : Eval Nat) : Eval Nat := do
  let leads ← redirects.mapM (expandRedirect run)
  let channels := (← self).channels
  before (do if ← followAll run leads then x else refused)
    (change fun p => { p with channels := channels })

end Eval

end UseCase.Shell
