import UseCase.Shell.Program

/-!
# Simple commands

What the words of a simple command call: a function, a command of the shell or a program. Words are
expanded from left to right, redirections take effect, variables are assigned, and then the command
is run. Without words the assignments stay, as they do in front of a special command.
-/

namespace UseCase.Shell

open Text (Bytes)

/-- What the first word of a command stands for. -/
inductive Callee where
  | function (body : Command)
  | special (b : Builtin)
  | regular (b : Builtin)
  /-- Runs a program in place of the shell. -/
  | replacement
  /-- Runs a command that is no function. -/
  | direct
  /-- Tells what words stand for. -/
  | description
  /-- Tells or changes what the shell remembers of programs. -/
  | memory
  | program

namespace Callee

/-- The command of the shell with a name. -/
def builtin? (name : String) : Option Callee :=
  match name with
  | "exec" => some replacement
  | "command" => some direct
  | "type" => some description
  | "hash" => some memory
  | _ => ((Builtin.special? name).map special).or ((Builtin.regular? name).map regular)

/-- What a name stands for if it is not the name of a function. -/
def plain (name : Bytes) : Callee :=
  (builtin? (Text.ofBytes name)).getD program

/-- Whether assignments are arguments of a command. -/
def assigns (name : Bytes) : Bool :=
  ["export", "readonly", "local"].contains (Text.ofBytes name)

end Callee

namespace Eval

/-! ### Words -/

/-- The words of a command after those that are expanded already. -/
def expandWords (run : Runner) (done : List Bytes) : List Word → Eval (List Bytes)
  | [] => return done
  | w :: rest => do
    let isDeclaration := (done.dropWhile (· == "command".toList)).head?.any Callee.assigns
    match if isDeclaration then Word.assignment? w else none with
    | some (name, value) => do
      let cs ← text run .value value
      expandWords run (done ++ [name ++ '=' :: cs]) rest
    | none => do expandWords run (done ++ (← fields run w)) rest

/-! ### Assignments -/

/-- Carries out an assignment, and answers with it as a word. -/
def carryOut (run : Runner) (exports : Bool) : Assignment → Eval Bytes
  | .mk name value => do
    let cs ← text run .value value
    assign name cs
    if exports then
      match ← binding? name with
      | some v => putVariable name (some { v with exported := true })
      | none => pure ()
    return name ++ '=' :: cs

/-- Shows the words of a command before it is run, on the stream where failures were told before
its redirections. -/
def showWords (told : Option (Nat × Stream)) (words : List Bytes) : Eval Unit := do
  if ← isOn .xtrace then
    let front ← valueOf "PS4"
    if let some (index, stream) := told then
      if stream.writes then
        changeWorld fun w => w.write index (front ++ [' '].intercalate words ++ ['\n'])

/-- Carries out the assignments in front of words. -/
def prepare (run : Runner) (told : Option (Nat × Stream)) (exports : Bool) (as : List Assignment)
    (words : List Bytes) : Eval Unit := do
  let shown ← as.mapM (carryOut run exports)
  showWords told (shown ++ words)

/-- Runs something with variables that have other values for that time. -/
def assigning (run : Runner) (told : Option (Nat × Stream)) (as : List Assignment)
    (words : List Bytes) (x : Eval Nat) : Eval Nat := do
  let old ← as.mapM fun
    | .mk name _ => do return (name, ← binding? name)
  let whole := do
    prepare run told true as words
    x
  before whole (old.forM fun (name, v) => putVariable name v)

/-! ### Functions -/

/-- Gives back what a function has hidden, and the arguments of its caller. -/
def leave (caller : Process) : Eval Unit := do
  if let some scope := (← self).hidden.head? then
    scope.former.forM fun (name, v) => putVariable name v
    if let some settings := scope.settings then change fun p => { p with settings := settings }
  change fun p =>
    { p with
      arguments := caller.arguments
      hidden := caller.hidden
      loops := caller.loops
      optionIndex := caller.optionIndex
      optionAt := caller.optionAt }

/-- How many calls of functions may be under way. -/
def maxCalls : Nat := 1000

/-- Calls a function. -/
def callFunction (run : Runner) (mode : Mode) (body : Command) (args : List Bytes) : Eval Nat := do
  let caller ← self
  if maxCalls ≤ caller.hidden.length then
    fail s!"Maximum function recursion depth ({maxCalls}) reached"
  change fun p => { Builtin.withArguments args p with hidden := ⟨[], none⟩ :: p.hidden, loops := 0 }
  let call := do
    try run mode body
    catch
      | .back status => return status
      | stop => throw stop
  before call (leave caller)

/-! ### Commands of the shell -/

/-- Runs a command that may be used wrongly without an end of the shell. -/
def guarded (x : Eval Nat) : Eval Nat := do
  try x
  catch
    | .failed => return failure
    | stop => throw stop

/-- What a name stands for, in words and briefly. -/
def describe (name : Bytes) : Eval (Option (String × Bytes)) := do
  let p ← self
  let text := Text.ofBytes name
  if Read.reserved.contains text then return some ("a shell keyword", name)
  if let some value := NameTable.get? name p.aliases then
    let line := "alias ".toList ++ (Builtin.aliasLine name value).dropLast
    return some (s!"an alias for {Text.ofBytes value}", line)
  if p.functions.any fun (n, _) => n == name then return some ("a shell function", name)
  match Callee.builtin? text with
  | some (.special _) | some .replacement => return some ("a special shell builtin", name)
  | some _ => return some ("a shell builtin", name)
  | none =>
    match Program.find (← world).files (← valueOf "PATH") name with
    | .ok (path, _) =>
      let isKnown := (NameTable.get? name p.found).isSome
      return some ((if isKnown then "a tracked alias for " else "") ++ Text.ofBytes path, path)
    | .error _ => return none

/-- Tells what names stand for, briefly or with all words. -/
def describeAll (brief : Bool) (names : List Bytes) : Eval Nat :=
  names.foldlM (fun status name => do
    match ← describe name with
    | some (what, short) =>
      let shown := if brief then short else name ++ " is ".toList ++ Text.bytes what
      let _ ← print (shown ++ ['\n'])
      return status
    | none =>
      unless brief do
        let _ ← print (name ++ ": not found\n".toList)
      return Program.missing) 0

/-- Remembers where programs are, forgets all of them, or lists them. -/
def rememberAll (args : List Bytes) : Eval Nat := do
  let (found, names) ← Builtin.options "r" "" args
  if Builtin.has 'r' found then
    change fun p => { p with found := [] }
    return 0
  if names.isEmpty then
    print ((NameTable.listed NameTable.forCommands (← self).found).flatMap fun (_, path) =>
      path ++ ['\n'])
  else
    names.foldlM (fun status name => do
      remember name
      if !name.contains '/' && (← describe name).isNone then
        complain s!"{Text.ofBytes name}: not found"
        return 1
      return status) 0

/-- Runs a program in place of the shell, or keeps the redirections if there is none. -/
def replace (run : Runner) (words : List Bytes) : Eval Nat := do
  match if words.head? = some ['-', '-'] then words.drop 1 else words with
  | [] => return 0
  | name :: args =>
    let isThere := match Program.find (← world).files (← valueOf "PATH") name with
      | .ok _ => true
      | .error _ => false
    let status ← runWords run true (name :: args)
    throw (.exit status !isThere)

/-- Runs a program that is searched for on the path, and remembers where it was found. -/
def runFound (run : Runner) (words : List Bytes) : Eval Nat := do
  if let some name := words.head? then remember name
  runWords run false words

/-- Runs a command that is no function, after options. -/
def runDirectly (run : Runner) (mode : Mode) (words : List Bytes) : Eval Nat := do
  let read? : Eval (Option (List (Char × Bytes) × List Bytes)) := do
    try return some (← Builtin.options "pvV" "" words)
    catch
      | .failed => return none
      | stop => throw stop
  let some (found, words) ← named "command".toList read? | return failure
  if Builtin.has 'V' found then describeAll false (words.take 1)
  else if Builtin.has 'v' found then describeAll true (words.take 1)
  else match words with
    | [] => return 0
    | name :: args =>
      match Callee.plain name with
      | .special b | .regular b => named name (guarded (b run mode args))
      | .replacement => replace run args
      | .description => describeAll false args
      | .memory => named name (guarded (rememberAll args))
      | .direct | .function _ | .program =>
        if Builtin.has 'p' found then launch run false none Program.standardPath maxDepth words
        else runFound run words

/-! ### Calls -/

/-- What a name stands for. -/
def callee (name : Bytes) : Eval Callee := do
  let c := Callee.plain name
  match c, (← self).functions.find? fun (n, _) => n == name with
  | .special _, _ | .replacement, _ | _, none => return c
  | _, some (_, body) => return .function body

/-- Runs a simple command. -/
def runSimple (run : Runner) (mode : Mode) (as : List Assignment) (ws : List Word)
    (redirects : List Redirect) : Eval Nat := do
  change fun p => { p with substituted := 0 }
  let words ← expandWords run [] ws
  let redirecting := redirecting run redirects
  let told ← stream? 2
  match words with
  | [] =>
    redirecting (return failure) do
      prepare run told false as []
      return (← self).substituted
  | name :: args =>
    let temporarily := fun x => redirecting (return failure) (assigning run told as words x)
    match ← callee name with
    | .special b =>
      redirecting (throw .failed) do
        prepare run told false as words
        named name (b run mode args)
    | .replacement =>
      let leads ← redirects.mapM (expandRedirect run)
      unless ← followAll run leads do throw .failed
      prepare run told true as words
      named name (replace run args)
    | .function body => temporarily (callFunction run mode body args)
    | .regular b => temporarily (named name (guarded (b run mode args)))
    | .description => temporarily (describeAll false args)
    | .direct => temporarily (runDirectly run mode args)
    | .memory => temporarily (named name (guarded (rememberAll args)))
    | .program => temporarily (runFound run words)

end Eval

end UseCase.Shell
