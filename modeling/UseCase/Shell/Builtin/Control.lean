import UseCase.Shell.Condition
import UseCase.Shell.Expansion
import UseCase.Shell.Format

/-!
# Commands of the shell that steer it

What all commands of the shell need to read their arguments, and those that leave the shell, a
function or a loop, run texts, print, or decide conditions. A command that is used wrongly fails.
-/

namespace UseCase.Shell

open Text (Bytes)

/-- A command of the shell, as a function of its arguments. -/
abbrev Builtin := Runner → Mode → List Bytes → Eval Nat

namespace Builtin

open Eval

/-- Takes the letters of an option with their values from arguments. -/
def letters (plain valued : Bytes) (rest : List Bytes) :
    Bytes → Eval (List (Char × Bytes) × List Bytes)
  | [] => return ([], rest)
  | c :: cs => do
    if valued.contains c then
      match cs, rest with
      | [], [] => fail s!"No arg for -{c} option"
      | [], value :: rest => return ([(c, value)], rest)
      | cs, rest => return ([(c, cs)], rest)
    else if plain.contains c then
      let (more, rest) ← letters plain valued rest cs
      return ((c, []) :: more, rest)
    else fail s!"Illegal option -{c}"

/-- Takes options with their values from the front of arguments; two dashes end them. -/
def optionsUpTo (plain valued : Bytes) :
    (fuel : Nat) → List Bytes → Eval (List (Char × Bytes) × List Bytes)
  | 0, args => return ([], args)
  | _, [] => return ([], [])
  | fuel + 1, arg :: rest => do
    match arg with
    | ['-', '-'] => return ([], rest)
    | '-' :: c :: cs =>
      let (found, rest) ← letters plain valued rest (c :: cs)
      let (more, rest) ← optionsUpTo plain valued fuel rest
      return (found ++ more, rest)
    | arg => return ([], arg :: rest)

/-- Takes options from the front of arguments. -/
def options (plain valued : String) (args : List Bytes) :
    Eval (List (Char × Bytes) × List Bytes) :=
  optionsUpTo plain.toList valued.toList (args.length + 1) args

/-- Whether an option was given. -/
def has (c : Char) (found : List (Char × Bytes)) : Bool :=
  found.any fun (d, _) => d == c

/-- The number that an argument is; anything else ends the shell. -/
def number (cs : Bytes) : Eval Nat := do
  match decimal? cs with
  | some n =>
    if 0 ≤ n ∧ n < Text.wordCount 31 then return n.toNat
    fail s!"Illegal number: {Text.ofBytes cs}"
  | none => fail s!"Illegal number: {Text.ofBytes cs}"

/-- Leaves the shell. -/
def exit : Builtin := fun _ _ args => do
  let status ← match args with
    | [] => pure (← self).status
    | arg :: _ => number arg
  throw (.exit (status % 256) true)

/-- Leaves a function. -/
def back : Builtin := fun _ _ args => do
  let status ← match args with
    | [] => pure (← self).status
    | arg :: _ => number arg
  throw (.back status)

/-- The number of loops that are meant, at most as many as there are; none outside of loops. -/
def levels (args : List Bytes) : Eval (Option Nat) := do
  let n ← match args with
    | [] => pure 1
    | arg :: _ => number arg
  let loops := (← self).loops
  if n = 0 then fail "Illegal number: 0"
  return if loops = 0 then none else some (min n loops)

/-- Leaves loops. -/
def out : Builtin := fun _ _ args => do
  match ← levels args with
  | some n => throw (.out n)
  | none => return 0

/-- Goes on with the next round of a loop. -/
def again : Builtin := fun _ _ args => do
  match ← levels args with
  | some n => throw (.again n)
  | none => return 0

/-- Runs its arguments as a text. -/
def evaluate : Builtin := fun run mode args =>
  runText run mode (joined [' '] args)

/-- The path of a script, which is searched for if it has no slash. -/
def scriptPath (name : Bytes) : Eval (Option Bytes) := do
  if name.contains '/' then return some name
  let fs := (← world).files
  return ((Text.segments ':' (← valueOf "PATH")).map fun directory =>
    if directory.isEmpty then name else directory ++ '/' :: name).find? fun path =>
      fs.isFile (Text.ofBytes path)

/-- Runs the commands of a file. -/
def source : Builtin := fun run _ args => do
  match args with
  | [] => return 0
  | name :: _ =>
    match ← scriptPath name with
    | none => fail s!"{Text.ofBytes name}: not found"
    | some path =>
      match (← world).files.find (Text.ofBytes path) with
      | .ok t =>
        match t.reading with
        | .error _ => return 0
        | .ok content =>
          try named name (runText run .plain content.bytes)
          catch
            | .back status => return status
            | stop => throw stop
      | .error _ => fail s!"cannot open {Text.ofBytes name}: No such file"

/-- Prints its arguments with their escapes resolved. -/
def echo : Builtin := fun _ _ args =>
  match args with
  | ['-', 'n'] :: args => print (Shell.echo false args)
  | args => print (Shell.echo true args)

/-- Prints its arguments in a format. -/
def printFormatted : Builtin := fun _ _ args => do
  let (_, args) ← options "" "" args
  match args with
  | [] =>
    complain "usage: printf format [arg ...]"
    return 2
  | format :: args =>
    let p := Printing.ofFormat format args
    p.wrong.reverse.forM fun (arg, fault) => complain s!"{Text.ofBytes arg}: {fault.message}"
    if let some fault := p.invalid then complain fault.message
    let _ ← print p.text
    return if p.invalid.isSome then 2 else if p.wrong.isEmpty then 0 else 1

/-- Decides a condition. -/
def test (closed : Bool) : Builtin := fun _ _ args => do
  if closed && args.getLast? != some [']'] then
    complain "missing ]"
    return 2
  match judge (← world).files (if closed then args.dropLast else args) with
  | .ok b => return if b then 0 else 1
  | .error reason =>
    complain reason
    return 2

/-- Does nothing. -/
def idle : Builtin := fun _ _ _ => return 0

/-- Tells the time that was used, which is none. -/
def times : Builtin := fun _ _ _ => do
  let _ ← printLine "0m0.000000s 0m0.000000s"
  printLine "0m0.000000s 0m0.000000s"

end Builtin

end UseCase.Shell
