import UseCase.Shell.Condition
import UseCase.Shell.Tool.Columns
import UseCase.Shell.Tool.Difference
import UseCase.Shell.Tool.Encoding
import UseCase.Shell.Tool.Expr
import UseCase.Shell.Tool.Finding
import UseCase.Shell.Tool.Order
import UseCase.Shell.Tool.Search
import UseCase.Shell.Tool.Series
import UseCase.Shell.Tool.Translation

/-!
# Tools that run others

Tools that set up the environment or the arguments of another one, tools that only tell something
about the system, and the table of all tools.
-/

namespace UseCase.Shell.Tool

open Text (Bytes)

/-- The variables that commands are given, as assignments. -/
def exported : Eval (List Bytes) := do
  return (← Eval.self).environment.map fun (name, value) => name ++ '=' :: value

/-- The options of `env` in front of its operands. -/
def environmentOptions (args : List Bytes) : Arguments × List Bytes :=
  let isOption := fun (arg : Bytes) => arg.head? == some '-' && arg != ['-']
  let rec count : List Bytes → Nat
    | ['-', 'u'] :: _ :: rest | ['-', 'C'] :: _ :: rest => 2 + count rest
    | ['-', '-'] :: _ => 1
    | arg :: rest => if isOption arg then 1 + count rest else 0
    | [] => 0
  let long := [("ignore-environment", 'i'), ("unset", 'u'), ("chdir", 'C'), ("null", '0')]
  (arguments "i0v" "uC" long (args.take (count args)), args.drop (count args))

/-- Runs a tool with other variables, or prints them. -/
def environment : Tool := fun again args => do
  let (a, rest) := environmentOptions args
  checked "env" 125 a do
    let isNew := a.has 'i' || rest.head? == some ['-']
    let rest := if rest.head? = some ['-'] then rest.drop 1 else rest
    let settings := rest.takeWhile fun arg => arg.contains '='
    let old := (← Eval.self).environment
    let kept := (if isNew then [] else old).filter fun (name, _) => !(a.values 'u').contains name
    let given := settings.foldl (fun given arg => match Text.cut '=' arg with
      | some (name, value) => NameTable.put name (some value) given
      | none => given) kept
    Eval.change fun p => { p with given := some given }
    match rest.drop settings.length with
    | [] =>
      let ending := if a.has '0' then ['\x00'] else ['\n']
      output 0 ((← exported).flatMap fun l => l ++ ending)
    | command => again command

/-- Prints variables. -/
def printEnvironment : Tool := fun _ args => do
  if args.isEmpty then output 0 (unlines (← exported))
  else args.foldlM (fun status name => do
    match NameTable.get? name (← Eval.self).environment with
    | some value => output status (value ++ ['\n'])
    | none => return 1) 0

/-- Cuts a text at blanks, as far as they are not protected. -/
def cutArguments (quote : Option Char) (word : Option Bytes) : Bytes → List Bytes
  | [] => (word.map List.reverse).toList
  | c :: rest =>
    match quote with
    | some q =>
      if c = q then cutArguments none (some (word.getD [])) rest
      else cutArguments quote (some (c :: word.getD [])) rest
    | none =>
      if c = '\x27' ∨ c = '\x22' then cutArguments (some c) (some (word.getD [])) rest
      else if c = '\\' then
        match rest with
        | d :: rest => cutArguments none (some (d :: word.getD [])) rest
        | [] => (word.map List.reverse).toList
      else if isBlank c then (word.map List.reverse).toList ++ cutArguments none none rest
      else cutArguments none (some (c :: word.getD [])) rest

/-- A text with all occurrences of a mark replaced. -/
def replaceAll (mark new : Bytes) : (fuel : Nat) → Bytes → Bytes
  | 0, cs => cs
  | _, [] => []
  | fuel + 1, c :: rest =>
    if !mark.isEmpty && mark.isPrefixOf (c :: rest) then
      new ++ replaceAll mark new fuel ((c :: rest).drop mark.length)
    else c :: replaceAll mark new fuel rest

/-- Pieces of a list with at most `size` elements. -/
def chunks {α : Type} (size : Nat) : (fuel : Nat) → List α → List (List α)
  | 0, _ | _, [] => []
  | fuel + 1, xs => xs.take size :: chunks size fuel (xs.drop size)

/-- The options in front of a command, with their values, and the command. -/
def leadingOptions (valued : List Char) :
    (fuel : Nat) → List Bytes → List (Char × Bytes) × List Bytes
  | fuel + 1, ('-' :: c :: cs) :: rest =>
    let (value, rest) := match valued.contains c && cs.isEmpty, rest with
      | true, value :: rest => (value, rest)
      | _, rest => (cs, rest)
    let (more, rest) := leadingOptions valued fuel rest
    ((c, value) :: more, rest)
  | _, args => ([], args)

/-- The arguments that a text holds for other commands. -/
def argumentsIn (options : List (Char × Bytes)) (bs : Bytes) : List Bytes :=
  let value? := fun (c : Char) => (options.find? fun (d, _) => d == c).map Prod.snd
  if (value? '0').isSome then (Text.segments '\x00' bs).filter (· != [])
  else match value? 'd' with
    | some (c :: _) => (Text.segments c bs).filter (· != [])
    | _ => cutArguments none none bs

/-- Runs a tool with the words of the standard input as further arguments. -/
def withArguments : Tool := fun again args => do
  let (options, command) := leadingOptions ['n', 'I', 'L', 'P', 'd', 's'] args.length args
  let value? := fun (c : Char) => (options.find? fun (d, _) => d == c).map Prod.snd
  let command : List Bytes := if command.isEmpty then ["echo".toList] else command
  let bs := (← Eval.readAll 0).getD []
  let calls : List (List Bytes) := match value? 'I' with
    | some mark => (lines bs).map fun l =>
      command.map fun arg => replaceAll mark l (arg.length + 1) arg
    | none =>
      let words := argumentsIn options bs
      match (value? 'n').bind Text.digits? with
      | some size => (chunks (max 1 size) words.length words).map fun ws => command ++ ws
      | none => if words.isEmpty && (value? 'r').isSome then [] else [command ++ words]
  calls.foldlM (fun status call => do
    let result ← again call
    return if result = 0 then status
      else if result = 126 ∨ result = 127 then result
      else if 128 ≤ result then 125 else 123) 0

/-- Runs its operands as a command, after options and some words of its own. -/
def passing (valued : List Char) (words : Nat) : Tool := fun again args =>
  match (leadingOptions valued args.length args).2.drop words with
  | [] => return 125
  | command => again command

/-- Waits, which takes no time here. -/
def wait : Tool := fun _ args => do
  let isDuration := fun (arg : Bytes) =>
    let digits := match arg.getLast? with
      | some c => if ['s', 'm', 'h', 'd'].contains c then arg.dropLast else arg
      | none => arg
    digits.any Char.isDigit && digits.all fun c => c.isDigit || c == '.'
  if args.isEmpty then misuse "sleep" 1 "missing operand"
  else match args.find? fun arg => !isDuration arg with
  | some arg =>
    misuse "sleep" 1 s!"invalid time interval '{Text.ofBytes arg}'"
  | none => return 0

/-- Prints its arguments. Escapes are resolved only on demand. -/
def printArguments : Tool := fun _ args => do
  let isOption := fun (arg : Bytes) => match arg with
    | '-' :: c :: cs => (c :: cs).all ['n', 'e', 'E'].contains
    | _ => false
  let letters := (args.takeWhile isOption).flatten
  let words := args.dropWhile isOption
  let ends := !letters.contains 'n'
  if letters.contains 'e' then output 0 (echo ends words)
  else output 0 ([' '].intercalate words ++ if ends then ['\n'] else [])

/-- Prints its arguments in a format. -/
def printFormatted : Tool := fun _ args => do
  match args with
  | [] =>
    misuse "printf" 1 "missing operand"
  | format :: args =>
    let p := Printing.ofFormat format args
    p.wrong.reverse.forM fun (arg, fault) =>
      let reason := match fault with
        | .absent => "expected a numeric value"
        | .unfinished => "value not completely converted"
        | .tooGreat => fault.message
      tell "printf" s!"'{Text.ofBytes arg}': {reason}"
    output (if p.wrong.isEmpty && p.invalid.isNone then 0 else 1) p.text

/-- Decides a condition. -/
def decideCondition (closed : Bool) : Tool := fun _ args => do
  let closing := closed && args.getLast? != some [']']
  let args := if closed then args.dropLast else args
  if closing then
    tell "[" "missing ]"
    return 2
  match judge (← Eval.world).files args with
  | .ok b => return if b then 0 else 1
  | .error reason =>
    tell "test" reason
    return 2

/-- Prints the path of the directory where one works. -/
def workingPath : Tool := fun _ _ => do
  output 0 (FileName.pathOf (← Eval.world).files.working ++ ['\n'])

/-- Prints a text. -/
def telling (text : String) : Tool := fun _ _ =>
  output 0 (Text.bytes text)

/-- The tools by name. -/
def find? (name : String) : Option Tool :=
  match name with
  | "true" => some fun _ _ => return 0
  | "false" => some fun _ _ => return 1
  | "echo" => some printArguments
  | "printf" => some printFormatted
  | "test" => some (decideCondition false)
  | "[" => some (decideCondition true)
  | "pwd" => some workingPath
  | "cat" => some concatenate
  | "tac" => some reverseLines
  | "rev" => some reverseBytes
  | "nl" => some numberLines
  | "head" => some head
  | "tail" => some tail
  | "wc" => some count
  | "sort" => some sort
  | "uniq" => some unique
  | "tr" => some translate
  | "cut" => some cut
  | "paste" => some paste
  | "tee" => some tee
  | "seq" => some sequence
  | "fold" => some fold
  | "expand" => some expand
  | "unexpand" => some unexpand
  | "comm" => some compareOrdered
  | "cmp" => some compareFiles
  | "diff" => some difference
  | "od" => some dump
  | "base64" => some letterCode
  | "grep" => some (grepWith false false)
  | "egrep" => some (grepWith false true)
  | "fgrep" => some (grepWith true false)
  | "sed" => some streamEdit
  | "expr" => some express
  | "ls" | "dir" => some list
  | "cp" => some copy
  | "mv" => some move
  | "rm" => some remove
  | "unlink" => some unlinkFile
  | "rmdir" => some removeDirectory
  | "mkdir" => some makeDirectory
  | "touch" => some touch
  | "ln" | "link" => some link
  | "chmod" => some changeMode
  | "chown" | "chgrp" | "sync" => some fun _ _ => return 0
  | "find" => some find
  | "basename" => some baseName
  | "dirname" => some directoryName
  | "realpath" => some wholePath
  | "readlink" => some linkPath
  | "stat" => some status
  | "truncate" => some truncate
  | "env" => some environment
  | "printenv" => some printEnvironment
  | "xargs" => some withArguments
  | "nohup" | "setsid" => some (passing [] 0)
  | "nice" | "ionice" => some (passing ['n', 'c'] 0)
  | "stdbuf" => some (passing ['i', 'o', 'e'] 0)
  | "timeout" => some (passing ['k', 's'] 1)
  | "sleep" => some wait
  | "whoami" => some (telling "root\n")
  | "uname" => some (telling "Linux\n")
  | "arch" => some (telling "x86_64\n")
  | "tty" => some fun _ _ => output 1 "not a tty\n".toList
  | "date" | "id" | "hostname" | "nproc" | "df" | "du" | "ps" => some (telling "")
  | _ => none

end UseCase.Shell.Tool
