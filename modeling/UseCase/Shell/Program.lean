import UseCase.Shell.Builtin
import UseCase.Shell.Redirection
import UseCase.Shell.Tool.Process

/-!
# Programs

What is run beside the shell: the tools of the system, files with commands, and further shells. A
name without a slash is searched for in the directories of a path. A further shell is given the
exported variables and nothing else of the state of the one that starts it, and a signal that ends
it leaves the outer one alone.
-/

namespace UseCase.Shell

open Text (Bytes)

/-- A program of the system. -/
inductive Program where
  | shell
  | tool (t : Tool)
  /-- A file with its bytes. -/
  | script (content : Bytes)

namespace Program

/-- The status of a program that is not there. -/
def missing : Nat := 127

/-- The status of a program that cannot be run. -/
def refused : Nat := 126

/-- The directories with the programs of the system. -/
def directories : List Bytes :=
  ["/bin".toList, "/usr/bin".toList]

/-- The directories that are searched if nothing else is said. -/
def standardPath : Bytes :=
  "/usr/local/sbin:/usr/local/bin:/usr/sbin:/usr/bin:/sbin:/bin".toList

/-- A program of the system. -/
def named? (name : Bytes) : Option Program :=
  match Text.ofBytes name with
  | "sh" | "dash" | "bash" => some .shell
  | name => (Tool.find? name).map .tool

/-- The directory part of a path that has a slash, and the name. -/
def cutPath (path : Bytes) : Bytes × Bytes :=
  let name := (path.reverse.takeWhile (· != '/')).reverse
  let front := path.take (path.length - name.length)
  ((front.reverse.dropWhile (· == '/')).reverse, name)

/-- The program at a path, or the status that tells why there is none. -/
def atPath (fs : Files) (path : Bytes) : Except Nat Program :=
  let (directory, name) := cutPath path
  if directories.contains directory then
    match named? name with
    | some p => .ok p
    | none => .error missing
  else match fs.find (Text.ofBytes path) with
    | .ok (.file content mode) =>
      if mode &&& Permission.forAll 1 = 0 then .error refused else .ok (.script content.bytes)
    | .ok _ => .error refused
    | .error _ => .error missing

/-- The program with a name or at a path, together with its path. -/
def find (fs : Files) (searched name : Bytes) : Except Nat (Bytes × Program) :=
  if name.contains '/' then (atPath fs name).map fun p => (name, p)
  else
    let paths := (Text.segments ':' searched).map fun directory =>
      if directory.isEmpty then "./".toList ++ name else directory ++ '/' :: name
    let found := paths.filterMap fun path =>
      match atPath fs path with
      | .ok p => some (path, p)
      | .error _ => none
    if name.isEmpty then .error missing
    else match found with
      | [] => .error missing
      | first :: _ => .ok first

/-- The path and the argument of the program that a file with commands is meant for. -/
def interpreter? : Bytes → Option (List Bytes)
  | '#' :: '!' :: rest =>
    let line := rest.takeWhile (· != '\n')
    let path := (line.dropWhile isBlank).takeWhile fun c => !isBlank c
    let argument := ((line.dropWhile isBlank).drop path.length).dropWhile isBlank
    let argument := (argument.reverse.dropWhile isBlank).reverse
    if path.isEmpty then none
    else some (path :: if argument.isEmpty then [] else [argument])
  | _ => none

end Program

/-- What a shell is told by its arguments. -/
structure Invocation where
  settings : List Setting
  /-- Whether the first operand is the text to run. -/
  isText : Bool
  operands : List Bytes

namespace Invocation

/-- Takes the letters of an option. -/
def letters : Bytes → (isOn : Bool) → Invocation → Except String Invocation
  | [], _, i => .ok i
  | 'c' :: rest, isOn, i => letters rest isOn { i with isText := true }
  | 'l' :: rest, isOn, i => letters rest isOn i
  | c :: rest, isOn, i =>
    match Setting.ofLetter? c with
    | some s => letters rest isOn { i with settings := s.turnAlone isOn i.settings }
    | none => .error s!"Illegal option -{c}"

/-- Reads arguments. -/
def read : (fuel : Nat) → List Bytes → Invocation → Except String Invocation
  | 0, args, i => .ok { i with operands := args }
  | _, [], i => .ok i
  | fuel + 1, arg :: rest, i =>
    match arg with
    | ['-'] | ['-', '-'] => .ok { i with operands := rest }
    | ['-', 'o'] | ['+', 'o'] =>
      match rest with
      | name :: rest =>
        match Setting.ofName? (Text.ofBytes name) with
        | some s =>
          read fuel rest { i with settings := s.turn (arg.head? == some '-') i.settings }
        | none => .error s!"Illegal option -o {Text.ofBytes name}"
      | [] => .ok i
    | '-' :: cs => do read fuel rest (← letters cs true i)
    | '+' :: cs => do read fuel rest (← letters cs false i)
    | arg => .ok { i with operands := arg :: rest }

/-- What arguments tell a shell. -/
def ofArguments (args : List Bytes) : Except String Invocation :=
  read (args.length + 1) args ⟨[], false, []⟩

end Invocation

namespace Process

/-- The variables of a new shell that was given some. -/
def firstBindings (parent : Nat) (working : Bytes) (given : List (Bytes × Bytes)) :
    List (Bytes × Variable) :=
  let put := fun (exported : Bool) (bindings : List (Bytes × Variable))
      (entry : Bytes × Bytes) =>
    let wasGiven := given.any fun (name, _) => name == entry.1
    NameTable.put entry.1 (some ⟨some entry.2, exported || wasGiven, false⟩) bindings
  let default := [("IFS".toList, " \t\n".toList), ("PATH".toList, Program.standardPath),
    ("PS1".toList, "# ".toList), ("PS2".toList, "> ".toList), ("PS4".toList, "+ ".toList),
    ("OPTIND".toList, ['1'])]
  let own := [("IFS".toList, " \t\n".toList), ("OPTIND".toList, ['1']),
    ("PPID".toList, (toString parent).toList)]
  let bindings := (given.filter fun (name, _) => isName name).foldl (put true)
    (default.foldl (put false) [])
  put true (own.foldl (put false) bindings) ("PWD".toList, working)

/-- A new shell. -/
def start (number parent : Nat) (name : Bytes) (bindings : List (Bytes × Variable))
    (channels : List (Nat × Nat)) : Process where
  number := number
  parent := parent
  name := name
  arguments := []
  bindings := bindings
  functions := []
  aliases := []
  found := []
  documents := #[]
  settings := []
  actions := []
  outerActions := []
  status := 0
  channels := channels
  lastChild := none
  children := []
  started := 0
  hidden := []
  loops := 0
  isPart := false
  line := 1
  substituted := 0
  optionIndex := 1
  optionAt := none
  command := []
  mask := 18
  limits := Limit.standard
  given := none

end Process

namespace Eval

/-- A shell that the one at work starts. -/
def child (name : Bytes) (arguments : List Bytes) (settings : List Setting) : Eval Process := do
  let p ← self
  let given := p.environment
  let bindings := Process.firstBindings p.number (← Builtin.workingPath) given
  let ignored := p.actions.filter fun (n, action) => n != 0 && action.isEmpty
  return { Process.start (p.number + 1) p.number name bindings p.channels with
    arguments := arguments, settings := settings, actions := ignored, mask := p.mask
    limits := p.limits }

/-- Has a shell of its own run a text. A signal that ends it also ends the one at work if it was run
in place of that. -/
def runBy (run : Runner) (replaces : Bool) (inner : Process) (script : Bytes) : Eval Nat := do
  let outer ← self
  try
    restoring do
      change fun _ => inner
      toEnd run (runText run .plain script)
  catch
    | .killed process signal =>
      if process ≠ inner.number then throw (.killed process signal)
      if replaces && !outer.isPart then throw (.killed outer.number signal)
      unless (Signal.description signal).isEmpty do tell (Signal.description signal)
      return (Ending.killed signal).status
    | stop => throw stop

/-- Runs a further shell. -/
def runShell (run : Runner) (replaces : Bool) (name : Bytes) (args : List Bytes) : Eval Nat := do
  let refuse := fun (text : String) => do
    tell s!"{Text.ofBytes name}: 0: {text}"
    return failure
  match Invocation.ofArguments args with
  | .error text => refuse text
  | .ok i =>
    match i.isText, i.operands with
    | true, [] => refuse "-c requires an argument"
    | true, script :: rest =>
      runBy run replaces (← child (rest.head?.getD name) (rest.drop 1) i.settings) script
    | false, path :: rest =>
      if i.settings.contains .stdin then
        runBy run replaces (← child name i.operands i.settings) ((← readAll 0).getD [])
      else match (← world).files.find (Text.ofBytes path) with
        | .ok t =>
          match t.reading with
          | .ok content => runBy run replaces (← child path rest i.settings) content.bytes
          | .error _ => return 0
        | .error _ => refuse s!"cannot open {Text.ofBytes path}: No such file"
    | false, [] =>
      let settings := Setting.stdin.turn true i.settings
      runBy run replaces (← child name [] settings) ((← readAll 0).getD [])

/-- Runs a program that may have others run by `again`. -/
def runProgram (run : Runner) (replaces : Bool) (again : List Bytes → Eval Nat) (path : Bytes)
    (args : List Bytes) : Program → Eval Nat
  | .shell => runShell run replaces path args
  | .tool t => restoring (t again args)
  | .script content => do
    let asScript := do runBy run replaces (← child path args []) content
    match Program.interpreter? content with
    | none => asScript
    | some words =>
      let interpreter := words.headD []
      let args := words.drop 1 ++ path :: args
      match Program.atPath (← world).files interpreter with
      | .ok .shell => runShell run replaces interpreter args
      | .ok (.tool t) => restoring (t again args)
      | .ok (.script _) => asScript
      | .error status =>
        complain s!"{Text.ofBytes path}: not found"
        return status

/-- The directories in which programs search for others. -/
def searched : Eval Bytes := do
  return (NameTable.get? "PATH".toList (← self).environment).getD Program.standardPath

/-- Tells that there is no program with a name, by the shell or by a tool that was to run it. -/
def tellMissing (tool : Option Bytes) (name : Bytes) (status : Nat) : Eval Unit := do
  let isRefused := status = Program.refused
  let reason := if isRefused then "Permission denied" else "not found"
  let cause := if isRefused then reason else SystemFault.missing.reason
  let shown := Text.ofBytes name
  match tool.map Text.ofBytes with
  | none => complain s!"{shown}: {reason}"
  | some "xargs" => tell s!"xargs: {shown}: {cause}"
  | some "env" => tell s!"env: '{shown}': {cause}"
  | some tool => tell s!"{tool}: failed to run command '{shown}': {cause}"

/-- Runs the program that some words call, for the shell or for a tool; up to `depth` programs may
run one another. -/
def launch (run : Runner) (replaces : Bool) (tool : Option Bytes) (path : Bytes) :
    (depth : Nat) → List Bytes → Eval Nat
  | _, [] => return 0
  | 0, _ => return Program.refused
  | depth + 1, name :: args => do
    match Program.find (← world).files path name with
    | .ok (found, p) =>
      prepareProcess run
      let shown := if name.contains '/' then found else name
      let again := fun words => do launch run replaces (some name) (← searched) depth words
      runProgram run replaces again shown args p
    | .error status =>
      tellMissing tool name status
      return status

/-- Remembers where a program was found. -/
def remember (name : Bytes) : Eval Unit := do
  let isKnown := name.contains '/' || (← self).functions.any fun (n, _) => n == name
  if !isKnown then
    if let .ok (path, _) := Program.find (← world).files (← valueOf "PATH") name then
      change fun p => { p with found := NameTable.put name (some path) p.found }

/-- How many programs may run one another. -/
def maxDepth : Nat := 1000

/-- Runs the program that some words call. -/
def runWords (run : Runner) (replaces : Bool) (words : List Bytes) : Eval Nat := do
  launch run replaces none (← valueOf "PATH") maxDepth words

end Eval

end UseCase.Shell
