import UseCase.Shell.Subshell

/-!
# Tools

Tools are the commands that are no part of the shell itself. They know the shell's channels and the
files, and change nothing of the shell. Here is what all of them need: their options, and the bytes
of the files that they are asked to read.
-/

namespace UseCase.Shell

open Text (Bytes)

/-- A tool, as a function of its arguments; it may have others run. -/
abbrev Tool := (again : List Bytes → Eval Nat) → List Bytes → Eval Nat

namespace Tool

/-- The arguments of a tool: its options, with their values, and the others. -/
structure Arguments where
  options : List (Char × Bytes)
  operands : List Bytes
  /-- What is wrong about the options. -/
  fault : Option String

/-- The options that a tool has. -/
structure Options where
  plain : List Char
  /-- Those that take a value. -/
  valued : List Char
  /-- Long names. -/
  long : List (String × Char)

/-- One more option. -/
def Arguments.add (a : Arguments) (letter : Char) (value : Bytes) : Arguments :=
  { a with options := (letter, value) :: a.options }

/-- The letters of an argument, the last of which may take a value from what follows, the arguments
after them, and what is wrong about them. -/
def letters (o : Options) (cs : Bytes) (rest : List Bytes) :
    List (Char × Bytes) × List Bytes × Option String :=
  match cs with
  | [] => ([], rest, none)
  | c :: cs =>
    if o.valued.contains c then
      if cs.isEmpty then
        match rest with
        | value :: rest => ([(c, value)], rest, none)
        | [] => ([], [], some s!"option requires an argument -- '{c}'")
      else ([(c, cs)], rest, none)
    else if o.plain.contains c then
      let (more, rest, fault) := letters o cs rest
      ((c, []) :: more, rest, fault)
    else ([], rest, some s!"invalid option -- '{c}'")

/-- The letter of a long name, which may be cut short as long as it stands for one letter only. -/
def Options.letter? (o : Options) (name : String) : Option Char :=
  match o.long.find? fun (n, _) => n == name with
  | some (_, letter) => some letter
  | none =>
    match o.long.filter fun (n, _) => name.toList.isPrefixOf n.toList with
    | (_, letter) :: rest => if rest.all fun (_, c) => c == letter then some letter else none
    | [] => none

/-- Reads the arguments of a tool. -/
def parse (o : Options) : (fuel : Nat) → List Bytes → Arguments
  | 0, _ | _, [] => ⟨[], [], none⟩
  | fuel + 1, arg :: rest =>
    match arg with
    | ['-', '-'] => ⟨[], rest, none⟩
    | '-' :: '-' :: name =>
      let text := String.ofList (name.takeWhile (· != '='))
      let value := (name.dropWhile (· != '=')).drop 1
      match o.letter? text with
      | some letter =>
        if o.valued.contains letter && !name.contains '=' then
          match rest with
          | value :: rest => (parse o fuel rest).add letter value
          | [] => ⟨[], [], some s!"option '{Text.ofBytes arg}' requires an argument"⟩
        else (parse o fuel rest).add letter value
      | none => ⟨[], rest, some s!"unrecognized option '{Text.ofBytes arg}'"⟩
    | '-' :: c :: cs =>
      match letters o (c :: cs) rest with
      | (found, rest, none) =>
        let a := parse o fuel rest
        { a with options := found ++ a.options }
      | (_, rest, some fault) => ⟨[], rest, some fault⟩
    | arg =>
      let a := parse o fuel rest
      { a with operands := arg :: a.operands }

/-- The arguments of a tool with these options. -/
def arguments (plain valued : String) (long : List (String × Char)) (args : List Bytes) :
    Arguments :=
  parse ⟨plain.toList, valued.toList, long⟩ (args.length + 1) args

namespace Arguments

/-- Whether an option is given. -/
def has (a : Arguments) (letter : Char) : Bool :=
  a.options.any fun (c, _) => c == letter

/-- The value of an option, the last one if it is given several times. -/
def value? (a : Arguments) (letter : Char) : Option Bytes :=
  (a.options.reverse.find? fun (c, _) => c == letter).map Prod.snd

/-- All values of an option. -/
def values (a : Arguments) (letter : Char) : List Bytes :=
  (a.options.filter fun (c, _) => c == letter).map Prod.snd

end Arguments

/-- Tells a failure of a tool. -/
def tell (tool text : String) : Eval Unit :=
  Eval.tell (tool ++ ": " ++ text)

/-- Tells that a tool was called wrongly, with lines that explain it, and answers with a status. -/
def misuseBecause (tool : String) (status : Nat) (text : String) (why : List String) :
    Eval Nat := do
  tell tool text
  why.forM Eval.tell
  Eval.tell s!"Try '{tool} --help' for more information."
  return status

/-- Tells that a tool was called wrongly, and answers with a status. -/
def misuse (tool : String) (status : Nat) (text : String) : Eval Nat :=
  misuseBecause tool status text []

/-- Refuses wrong options with a status. -/
def checked (tool : String) (status : Nat) (a : Arguments) (x : Eval Nat) : Eval Nat :=
  match a.fault with
  | none => x
  | some text => misuse tool status text

/-- What a tool tells about a file that it cannot read. -/
def readFault (tool path : String) (cause : SystemFault) : String :=
  match tool, cause with
  | "head", .isDirectory | "tail", .isDirectory => s!"error reading '{path}': {cause.reason}"
  | "head", _ | "tail", _ => s!"cannot open '{path}' for reading: {cause.reason}"
  | "sort", .isDirectory => s!"read failed: {path}: {cause.reason}"
  | "sort", _ => s!"cannot read: {path}: {cause.reason}"
  | _, _ => s!"{path}: {cause.reason}"

/-- The bytes of a file; a dash stands for the standard input. -/
def read (path : Bytes) : Eval (Except SystemFault Bytes) := do
  let text := Text.ofBytes path
  if path = ['-'] ∨ text = "/dev/stdin" then
    match ← Eval.readAll 0 with
    | some bs => return .ok bs
    | none => return .error .missing
  if text = "/dev/null" then return .ok []
  match (← Eval.world).files.find text with
  | .ok t => return t.reading.map Content.bytes
  | .error cause => return .error cause

/-- Gives a file its content for a tool; a new one has the permissions that the shell leaves. -/
def putFile (names : List FileName) (content : Content) : Eval Unit := do
  let mode := Permission.forFile (← Eval.self).mask
  Eval.changeWorld fun w => { w with files := w.files.putWith mode names content }

/-- Writes a file at a path, and answers with a status, or tells in some wording why not. -/
def writeFile (tool : String) (status failure : Nat) (wording : String → String → String)
    (path bs : Bytes) : Eval Nat := do
  let shown := Text.ofBytes path
  if shown = "/dev/null" then return status
  let files := (← Eval.world).files
  let aimed := do
    let names ← files.target shown
    files.accepts names
    return names
  match aimed with
  | .ok names =>
    putFile names (.ofBytes bs)
    return status
  | .error cause =>
    tell tool (wording shown cause.reason)
    return failure

/-- The bytes of files, with their paths; the standard input if there are none. Those that cannot be
read are told about and make the status the given one. -/
def readEach (tool : String) (failure : Nat) (paths : List Bytes) :
    Eval (List (Bytes × Bytes) × Nat) :=
  (if paths.isEmpty then [['-']] else paths).foldlM (fun (files, status) path => do
    match ← read path with
    | .ok bs => return (files ++ [(path, bs)], status)
    | .error cause =>
      tell tool (readFault tool (Text.ofBytes path) cause)
      return (files, failure)) ([], 0)

/-- The bytes of files one after the other. -/
def readAll (tool : String) (failure : Nat) (paths : List Bytes) : Eval (Bytes × Nat) := do
  let (files, status) ← readEach tool failure paths
  return ((files.map Prod.snd).flatten, status)

/-- The pieces of some bytes that end with a byte, without it. -/
def linesBy (ending : Char) (bs : Bytes) : List Bytes :=
  let pieces := Text.segments ending bs
  match pieces.getLast? with
  | some [] => pieces.dropLast
  | _ => pieces

/-- Pieces, each with a byte at its end. -/
def unlinesBy (ending : Char) (ls : List Bytes) : Bytes :=
  ls.flatMap fun l => l ++ [ending]

/-- The lines of some bytes, without the bytes that end them. -/
def lines (bs : Bytes) : List Bytes :=
  linesBy '\n' bs

/-- Lines with the bytes that end them. -/
def unlines (ls : List Bytes) : Bytes :=
  unlinesBy '\n' ls

/-- The lines of some bytes with the bytes that end them, which the last one need not have. -/
def wholeLines (bs : Bytes) : List Bytes :=
  bs.foldr (fun c ls =>
    if c = '\n' then ['\n'] :: ls
    else match ls with
      | [] => [[c]]
      | l :: ls => (c :: l) :: ls) []

/-- A decimal number of some width, with blanks in front. -/
def aligned (width n : Nat) : Bytes :=
  let digits := Nat.toDigits 10 n
  List.replicate (width - digits.length) ' ' ++ digits

/-- Prints, and answers with a status. -/
def output (status : Nat) (bs : Bytes) : Eval Nat := do
  let printed ← if bs.isEmpty then pure 0 else Eval.print bs
  return max status printed

/-- The last name of a path. -/
def fileName (path : Bytes) : Bytes :=
  let inner := (path.reverse.dropWhile (· == '/')).reverse
  if inner.isEmpty then path.take 1
  else (inner.reverse.takeWhile (· != '/')).reverse

/-- A path in a directory. -/
def joinPath (directory name : Bytes) : Bytes :=
  if directory.getLast? = some '/' then directory ++ name else directory ++ '/' :: name

end Tool

end UseCase.Shell
