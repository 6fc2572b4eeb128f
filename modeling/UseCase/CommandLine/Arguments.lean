import UseCase.CommandLine.Batch
import UseCase.Text.Split

/-!
# Arguments

The arguments of the program: options, a command, and what the command needs. Options may stand
before and after the command, each once on either side, and the one after the command counts; only
`-v` has to stand before it. The value of an option follows it or is joined to it, and begins with a
dash only if it is joined, or is a dash alone. Two dashes after the command end the options.
-/

namespace UseCase.CommandLine

/-- An option with its value. -/
inductive Setting where
  | verbose
  | configDir (path : String)
  | card (name : String)
  | json
  | stateFile (path : String)
  | noSleep
  | noExec
  deriving DecidableEq, Repr

namespace Setting

/-- The options in the order of their definition, without their values. -/
def rank : Setting → Nat
  | verbose => 0
  | configDir _ => 1
  | card _ => 2
  | json => 3
  | stateFile _ => 4
  | noSleep => 5
  | noExec => 6

/-- Whether the value of an option will do: a path is not empty. -/
def isValid : Setting → Bool
  | configDir path | stateFile path => !path.isEmpty
  | _ => true

/-- A long option without a value. -/
def longFlag? (name : String) : Option Setting :=
  match name with
  | "verbose" => some verbose
  | "json" => some json
  | "no-sleep" => some noSleep
  | "no-exec" => some noExec
  | _ => none

/-- A long option that takes a value. -/
def longValued? (name : String) : Option (String → Setting) :=
  match name with
  | "config-dir" => some configDir
  | "card" => some card
  | "state-file" => some stateFile
  | _ => none

end Setting

/-- What an argument that looks like an option stands for. -/
inductive Parsed where
  | complete (settings : List Setting)
  /-- The last option takes the next argument as its value. -/
  | awaiting (settings : List Setting) (option : String → Setting)

/-- Reads a long option, without its dashes. -/
def parseLong? (text : List Char) : Option Parsed :=
  match Text.cut '=' text with
  | some (name, value) =>
    (Setting.longValued? (String.ofList name)).map fun option =>
      .complete [option (String.ofList value)]
  | none =>
    match Setting.longFlag? (String.ofList text), Setting.longValued? (String.ofList text) with
    | some flag, _ => some (.complete [flag])
    | none, some option => some (.awaiting [] option)
    | none, none => none

/-- Reads short options, without their dash. -/
def parseShort? : List Char → Option Parsed
  | [] => some (.complete [])
  | 'v' :: rest =>
    (parseShort? rest).map fun
      | .complete settings => .complete (.verbose :: settings)
      | .awaiting settings option => .awaiting (.verbose :: settings) option
  | ['c'] => some (.awaiting [] .card)
  | 'c' :: '=' :: value => some (.complete [.card (String.ofList value)])
  | 'c' :: value => some (.complete [.card (String.ofList value)])
  | _ => none

/-- Whether an argument looks like an option: a dash with something behind it. -/
def isOption (arg : String) : Bool :=
  match arg.toList with
  | '-' :: _ :: _ => true
  | _ => false

/-- Reads an argument that looks like an option. -/
def parseOption? (arg : String) : Option Parsed :=
  match arg.toList with
  | '-' :: '-' :: text => parseLong? text
  | '-' :: text => parseShort? text
  | _ => none

/-- The options in front of other arguments, and those arguments. -/
def leading? : List String → Option (List Setting × List String)
  | [] => some ([], [])
  | arg :: rest =>
    if arg = "--" then none
    else if !isOption arg then some ([], arg :: rest)
    else match parseOption? arg with
      | none => none
      | some (.complete settings) =>
        (leading? rest).map fun (more, rest) => (settings ++ more, rest)
      | some (.awaiting settings option) =>
        match rest with
        | [] => none
        | value :: rest =>
          if isOption value then none
          else (leading? rest).map fun (more, rest) => (settings ++ option value :: more, rest)

/-- The options among other arguments, and those arguments. -/
def mixed? : List String → Option (List Setting × List String)
  | [] => some ([], [])
  | arg :: rest =>
    if arg = "--" then some ([], rest)
    else if !isOption arg then
      (mixed? rest).map fun (settings, others) => (settings, arg :: others)
    else match parseOption? arg with
      | none => none
      | some (.complete settings) =>
        (mixed? rest).map fun (more, others) => (settings ++ more, others)
      | some (.awaiting settings option) =>
        match rest with
        | [] => none
        | value :: rest =>
          if isOption value then none
          else (mixed? rest).map fun (more, others) => (settings ++ option value :: more, others)

/-- Whether options are valid and none is given twice. -/
def areSound (settings : List Setting) : Bool :=
  settings.all Setting.isValid && decide (settings.map Setting.rank).Nodup

/-- What the program is asked to do. -/
inductive Task where
  | cards
  | request (r : Request)
  | batch (file : String)
  deriving DecidableEq, Repr

/-- The task of a command with its arguments. -/
def task? (command : String) (args : List String) : Option Task :=
  match command, args with
  | "cards", [] => some .cards
  | "list", [] => some (.request (.list none))
  | "list", [identifier] => some (.request (.list (some identifier)))
  | "get", [identifier] => some (.request (.get identifier))
  | "geti", [identifier] => some (.request (.geti identifier))
  | "set", [identifier] => some (.request (.set identifier none))
  | "set", [identifier, value] => some (.request (.set identifier (some value)))
  | "status", [] => some (.request .status)
  | "reset", [] => some (.request .reset)
  | "reload", [] => some (.request .reload)
  | "batch", [file] => if file.isEmpty then none else some (.batch file)
  | _, _ => none

/-- A call of the program. -/
structure Invocation where
  configDir : Option String
  card : String
  json : Bool
  stateFile : Option String
  sleeps : Bool
  executes : Bool
  task : Task
  deriving DecidableEq, Repr

namespace Invocation

/-- The card that is opened unless another is named. -/
def defaultCard : String := "default"

/-- The call with these options, the ones that count first. -/
def ofSettings (settings : List Setting) (task : Task) : Invocation where
  configDir := settings.findSome? fun
    | .configDir path => some path
    | _ => none
  card := (settings.findSome? fun
    | .card name => some name
    | _ => none).getD defaultCard
  json := settings.contains .json
  stateFile := settings.findSome? fun
    | .stateFile path => some path
    | _ => none
  sleeps := !settings.contains .noSleep
  executes := !settings.contains .noExec
  task := task

/-- Reads the arguments of a call. -/
def ofArguments? (args : List String) : Option Invocation := do
  let (before, rest) ← leading? args
  match rest with
  | [] => none
  | command :: rest =>
    let (after, others) ← mixed? rest
    guard (areSound before && areSound after && !after.contains .verbose)
    return ofSettings (after ++ before) (← task? command others)

end Invocation

end UseCase.CommandLine
