import UseCase.Shell.Builtin.Control

/-!
# Commands of the shell for its variables

The commands that mark, hide, remove and list variables, change the settings and the arguments of
the shell, read lines into variables, and take options from arguments.
-/

namespace UseCase.Shell.Builtin

open Text (Bytes)
open Eval

/-- A text in apostrophes. -/
def inApostrophes (cs : Bytes) : Bytes :=
  '\x27' :: (cs.flatMap fun c =>
    if c = '\x27' then "\x27\"\x27\"\x27".toList else [c]) ++ ['\x27']

/-- The variables in the order of their names, each as an assignment. -/
def listing (front : String) (shows : Variable → Bool) : Eval Bytes := do
  let vs := (← self).bindings.filter fun (_, v) => shows v
  return (Pattern.sorted (vs.map Prod.fst)).flatMap fun name =>
    let value := (NameTable.get? name vs).bind Variable.value
    front.toList ++ name ++ (value.map fun value => '=' :: inApostrophes value).getD [] ++ ['\n']

/-- Refuses what is no name of a variable. -/
def checkName (name : Bytes) : Eval Unit := do
  unless isName name do fail s!"{Text.ofBytes name}: bad variable name"

/-- Marks variables, which may be given values. -/
def mark (front : String) (shows : Variable → Bool) (f : Variable → Variable) : Builtin :=
  fun _ _ args => do
    let (found, names) ← options "p" "" args
    if has 'p' found || names.isEmpty then print (← listing front shows)
    else
      names.forM fun arg => do
        let (name, value) := match Text.cut '=' arg with
          | some (name, value) => (name, some value)
          | none => (arg, none)
        checkName name
        if let some value := value then assign name value
        putVariable name (some (f ((← binding? name).getD ⟨none, false, false⟩)))
      return 0

/-- Has variables given to commands. -/
def exportNames : Builtin :=
  mark "export " Variable.exported fun v => { v with exported := true }

/-- Keeps variables from being changed. -/
def readonlyNames : Builtin :=
  mark "readonly " Variable.isFixed fun v => { v with isFixed := true }

/-- Has the innermost function hide a variable. -/
def hide (name : Bytes) : Eval Unit := do
  let old ← binding? name
  change fun p => match p.hidden with
    | scope :: rest =>
      let isHidden := scope.former.any fun (n, _) => n == name
      let former := if isHidden then scope.former else (name, old) :: scope.former
      { p with hidden := { scope with former := former } :: rest }
    | [] => p

/-- Has the innermost function give the settings back. -/
def hideSettings : Eval Unit :=
  change fun p => match p.hidden with
    | scope :: rest =>
      { p with hidden := { scope with settings := scope.settings.or (some p.settings) } :: rest }
    | [] => p

/-- Hides variables until the end of a function, or the settings for a dash. -/
def localNames : Builtin := fun _ _ args => do
  if (← self).hidden.isEmpty then fail "not in a function"
  args.forM fun arg => do
    if arg = ['-'] then hideSettings
    else
      let (name, value) := match Text.cut '=' arg with
        | some (name, value) => (name, some value)
        | none => (arg, none)
      checkName name
      hide name
      if let some value := value then assign name value
  return 0

/-- Removes variables or functions. -/
def unset : Builtin := fun _ _ args => do
  let (found, names) ← options "vf" "" args
  names.forM fun name => do
    if (found.getLast?.map Prod.fst) = some 'f' then
      change fun p => { p with functions := p.functions.filter fun (n, _) => n != name }
    else
      checkName name
      match ← binding? name with
      | some v =>
        if v.isFixed then fail s!"{Text.ofBytes name}: is read only"
        putVariable name none
      | none => pure ()
  return 0

/-- Turns the setting with a letter on or off. -/
def turnLetter (isOn : Bool) (letter : Char) : Eval Unit := do
  match Setting.ofLetter? letter with
  | some s => change fun p => { p with settings := s.turnAlone isOn p.settings }
  | none => fail s!"Illegal option -{letter}"

/-- Turns settings on or off by their letters, and by the names that follow for some of them. The
names that are left, and whether all settings are to be listed instead. -/
def turnLetters (isOn : Bool) (rest : List Bytes) : Bytes → Eval (List Bytes)
  | [] => return rest
  | 'o' :: cs => do
    match rest with
    | name :: rest =>
      match Setting.ofName? (Text.ofBytes name) with
      | some s => change fun p => { p with settings := s.turn isOn p.settings }
      | none => fail s!"Illegal option -o {Text.ofBytes name}"
      turnLetters isOn rest cs
    | [] => do
      let settings := (← self).settings
      let _ ← print
        (if isOn then Setting.table settings else Setting.commands settings).toList
      turnLetters isOn [] cs
  | c :: cs => do
    turnLetter isOn c
    turnLetters isOn rest cs

/-- Turns settings on or off; answers with the arguments behind them, if they are set as well. -/
def turnSettings : (fuel : Nat) → List Bytes → Eval (Option (List Bytes))
  | 0, _ | _, [] => return none
  | fuel + 1, arg :: rest => do
    match arg with
    | ['-', '-'] => return some rest
    | ['-'] => do
      change fun p => { p with settings := Setting.quiet p.settings }
      return if rest.isEmpty then none else some rest
    | sign :: letters =>
      if sign = '-' ∨ sign = '+' then
        turnSettings fuel (← turnLetters (sign = '-') rest letters)
      else return some (arg :: rest)
    | [] => return some (arg :: rest)

/-- The shell with other arguments, whose options are taken from the first one on. -/
def withArguments (args : List Bytes) (p : Process) : Process :=
  { p with arguments := args, optionIndex := 1, optionAt := none }

/-- Changes settings and arguments, or lists the variables. -/
def set : Builtin := fun _ _ args => do
  if args.isEmpty then print (← listing "" fun v => v.value.isSome)
  else
    if let some args ← turnSettings (args.length + 1) args then change (withArguments args)
    return 0

/-- Drops arguments. -/
def shift : Builtin := fun _ _ args => do
  let n ← match args with
    | [] => pure 1
    | arg :: _ => number arg
  if (← self).arguments.length < n then fail "can't shift that many"
  change fun p => withArguments (p.arguments.drop n) p
  return 0

/-- Lines of a channel that backslashes join, as marks, and whether the last one was whole. -/
def joinedLine (raw : Bool) : (fuel : Nat) → Eval (List Mark × Bool)
  | 0 => return ([], false)
  | fuel + 1 => do
    match ← readLine 0 with
    | none => return ([], false)
    | some (line, isWhole) =>
      if raw then return (line.map fun c => ⟨c, false⟩, isWhole)
      let (marks, goesOn) := unprotect line
      if goesOn && isWhole then
        let (more, isWhole) ← joinedLine raw fuel
        return (marks ++ more, isWhole)
      return (marks, isWhole)
where
  /-- The bytes of a line without the backslashes that protect others, and whether one stands at its
  end. -/
  unprotect : Bytes → List Mark × Bool
    | [] => ([], false)
    | ['\\'] => ([], true)
    | '\\' :: c :: rest =>
      let (marks, goesOn) := unprotect rest
      (⟨c, true⟩ :: marks, goesOn)
    | c :: rest =>
      let (marks, goesOn) := unprotect rest
      (⟨c, false⟩ :: marks, goesOn)

/-- The texts of `count` variables from a line; the last one takes what is left. -/
def distribute (separators : Bytes) : (count : Nat) → List Mark → List Bytes
  | 0, _ => []
  | count + 1, ms =>
    let separates := fun (m : Mark) => !m.isProtected && separators.contains m.char
    let isSpace := fun (m : Mark) => separates m && [' ', '\t', '\n'].contains m.char
    let ms := ms.dropWhile isSpace
    let field := ms.takeWhile fun m => !separates m
    let rest := (ms.drop field.length).dropWhile isSpace
    let rest := match rest with
      | m :: more => if separates m then more.dropWhile isSpace else rest
      | [] => []
    if count = 0 then
      if rest.isEmpty then [plainText field]
      else [plainText (ms.reverse.dropWhile isSpace).reverse]
    else plainText field :: distribute separators count rest

/-- Reads a line into variables. -/
def read : Builtin := fun _ _ args => do
  let (found, names) ← options "r" "p" args
  if names.isEmpty then fail "arg count"
  let (marks, isWhole) ← joinedLine (has 'r' found) 10000
  let texts := distribute (← separators) names.length marks
  (names.zip texts).forM fun (name, cs) => do
    checkName name
    assign name (cs.filter (· != '\x00'))
  return if isWhole then 0 else 1

/-- Where the next option of some arguments stands. -/
structure OptionPlace where
  /-- What is left of the argument with the last option. -/
  rest : Bytes
  /-- The number of arguments in front of the next one. -/
  passed : Nat

/-- Notes the place of the next option, after the name of this one. -/
def leaveOption (args : List Bytes) (name value : Bytes) (place : OptionPlace) : Eval Unit := do
  let index := place.passed + 1
  let last := (args[place.passed - 1]?).getD []
  assign "OPTIND".toList (toString index).toList
  change fun p => { p with
    optionIndex := index
    optionAt := if place.rest.isEmpty then none else some (last.length - place.rest.length) }
  checkName name
  assign name value

/-- The option that comes next in arguments, with the place behind its letter. -/
def nextOption? (index : Nat) (offset : Option Nat) (args : List Bytes) :
    Option (Char × OptionPlace) × Nat :=
  let rest := match offset with
    | some n => if 1 < index then ((args[index - 2]?).getD []).drop n else []
    | none => []
  match rest with
  | c :: rest => (some (c, ⟨rest, index - 1⟩), index - 1)
  | [] =>
    match args[index - 1]? with
    | some ['-', '-'] => (none, index)
    | some ('-' :: c :: rest) => (some (c, ⟨rest, index⟩), index)
    | _ => (none, index - 1)

/-- What follows a letter in the letters of options, of which some have a colon behind them. -/
def behindLetter? (c : Char) : Bytes → Option Bytes
  | [] => none
  | d :: ':' :: rest => if d = c then some (':' :: rest) else behindLetter? c rest
  | d :: rest => if d = c then some rest else behindLetter? c rest

/-- Takes the next option from arguments. -/
def getOption : Builtin := fun _ _ args => do
  match args with
  | letters :: name :: given =>
    let p ← self
    let args := if given.isEmpty then p.arguments else given
    let isPast : Bool := decide (args.length + 1 < p.optionIndex)
    let isQuiet := letters.head? == some ':'
    match nextOption? (if isPast then 1 else p.optionIndex) (if isPast then none else p.optionAt)
      args with
    | (none, passed) =>
      leaveOption args name ['?'] ⟨[], passed⟩
      return 1
    | (some (c, place), _) =>
      let wrong := fun (mark : Char) (text : String) => do
        if isQuiet then assign "OPTARG".toList [c]
        else
          tell text
          putVariable "OPTARG".toList none
        leaveOption args name [if isQuiet then mark else '?'] place
      match behindLetter? c letters with
      | none => wrong '?' s!"Illegal option -{c}"
      | some (':' :: _) =>
        match place.rest, args[place.passed]? with
        | [], none => wrong ':' s!"No arg for -{c} option"
        | [], some value =>
          assign "OPTARG".toList value
          leaveOption args name [c] ⟨[], place.passed + 1⟩
        | value, _ =>
          assign "OPTARG".toList value
          leaveOption args name [c] ⟨[], place.passed⟩
      | some _ =>
        assign "OPTARG".toList []
        leaveOption args name [c] place
      return 0
  | _ => fail "Usage: getopts optstring var [arg...]"

end UseCase.Shell.Builtin
