import UseCase.Shell.Builtin.Jobs
import UseCase.Shell.Permission

/-!
# Commands of the shell for its surroundings

The directory where one works, the permissions of new files, the limits of the process, and other
names of commands.
-/

namespace UseCase.Shell.Builtin

open Text (Bytes)
open Eval

/-- The path of the directory where one works. -/
def workingPath : Eval Bytes := do
  return FileName.pathOf (← world).files.working

/-- Gives a variable that commands are given a value. -/
def assignExported (name : String) (value : Bytes) : Eval Unit := do
  assign name.toList value
  if let some v ← binding? name.toList then
    putVariable name.toList (some { v with exported := true })

/-- Whether a path starts with a segment of one or two dots, or at the root. -/
def isFixedPath (path : Bytes) : Bool :=
  match Text.segments '/' path with
  | [] => false
  | first :: _ => [[], ['.'], ['.', '.']].contains first && path ≠ []

/-- The directories in which a path is searched, and whether it is shown when it was found there. -/
def searchedPaths (path : Bytes) : Eval (List (Bytes × Bool)) := do
  if isFixedPath path then return [(path, false)]
  let places := (← value? "CDPATH".toList).getD []
  let path := if path.isEmpty then ['.'] else path
  let found := (Text.segments ':' places).map fun place =>
    if place.isEmpty then (path, false)
    else (if place.getLast? = some '/' then place ++ path else place ++ '/' :: path, true)
  return found ++ [(path, false)]

/-- Changes the directory where one works. -/
def changeDirectory : Builtin := fun _ _ args => do
  let (_, args) ← options "LP" "" args
  let (path, isBack) ← match args with
    | [] => do pure (← valueOf "HOME", false)
    | ['-'] :: _ => do pure (← valueOf "OLDPWD", true)
    | path :: _ => pure (path, false)
  let fs := (← world).files
  let paths ← searchedPaths path
  match paths.find? fun (path, _) => fs.isDirectory (Text.ofBytes path) with
  | some (found, shows) =>
    match fs.locate (Text.ofBytes found) with
    | .ok names =>
      let old ← workingPath
      changeWorld fun w => { w with files := { w.files with working := names } }
      assignExported "OLDPWD" old
      assignExported "PWD" (← workingPath)
      if shows || isBack then print ((← workingPath) ++ ['\n']) else return 0
    | .error _ => fail s!"can't cd to {Text.ofBytes path}"
  | none => fail s!"can't cd to {Text.ofBytes path}"

/-- Prints the path of the directory where one works. -/
def printWorking : Builtin := fun _ _ args => do
  let _ ← options "LP" "" args
  print ((← workingPath) ++ ['\n'])

/-- The letters that a symbolic mode for new files may have. -/
def maskLetters : Bytes :=
  "rwxXsugo".toList

/-- Sets the permissions that new files do not get, or prints them. -/
def umask : Builtin := fun _ _ args => do
  let (found, args) ← options "S" "" args
  let mask := (← self).mask
  match args with
  | [] =>
    if has 'S' found then printLine (Permission.symbolic (Permission.all - mask))
    else print ((Text.padded 4 (Nat.toDigits 8 mask)).toList ++ ['\n'])
  | arg :: _ =>
    let setTo := fun (mask : Nat) => do
      change fun p => { p with mask := mask }
      return 0
    if arg.head?.any Char.isDigit then
      match Text.radixFrom? 8 0 arg with
      | some n => setTo (n % (Permission.all + 1))
      | none => fail s!"Illegal number: {Text.ofBytes arg}"
    else
      match Permission.change? maskLetters (Permission.all - mask) arg with
      | some permissions => setTo (Permission.all - permissions)
      | none => fail s!"Illegal mode: {Text.ofBytes arg}"

/-- Sets a limit of the process, or prints limits. -/
def ulimit : Builtin := fun _ _ args => do
  let (found, args) ← options "HSatfdscmlpnvwr" "" args
  let kinds := found.filter fun (c, _) => c = 'H' ∨ c = 'S'
  let kind := kinds.getLast?.map Prod.fst
  let isSoft := kind != some 'H'
  let letter := ((found.filter fun (c, _) => !(['H', 'S', 'a'].contains c)).getLast?.map
    Prod.fst).getD 'f'
  let limits := (← self).limits
  match args, limits.find? fun l => l.letter == letter with
  | [], some l =>
    if has 'a' found then print (String.join (limits.map fun l => l.row isSoft)).toList
    else printLine (Limit.text (if isSoft then l.soft else l.hard))
  | [arg], some l =>
    if has 'a' found then fail "too many arguments"
    match Limit.bound? arg with
    | none => fail "bad number"
    | some bound =>
      match l.set isSoft (kind != some 'S') bound with
      | .error reason => fail s!"error setting limit ({reason})"
      | .ok l =>
        change fun p => { p with
          limits := p.limits.map fun m => if m.letter = letter then l else m }
        return 0
  | _, _ => fail "too many arguments"

/-- Another name of a command, as an assignment. -/
def aliasLine (name value : Bytes) : Bytes :=
  name ++ '=' :: inApostrophes value ++ ['\n']

/-- Gives commands other names, or lists such names. -/
def aliasing : Builtin := fun _ _ args => do
  if args.isEmpty then
    print ((NameTable.listed NameTable.forNames (← self).aliases).flatMap fun (name, value) =>
      aliasLine name value)
  else
    args.foldlM (fun status arg => do
      match Text.cut '=' (arg.drop 1), NameTable.get? arg (← self).aliases with
      | some (name, value), _ =>
        let name := arg.take 1 ++ name
        change fun p => { p with aliases := NameTable.put name (some value) p.aliases }
        return status
      | none, some value => return max status (← print (aliasLine arg value))
      | none, none =>
        tell s!"alias: {Text.ofBytes arg} not found"
        return 1) 0

/-- Removes other names of commands. -/
def unalias : Builtin := fun _ _ args => do
  let (found, names) ← options "a" "" args
  if has 'a' found then
    change fun p => { p with aliases := [] }
    return 0
  names.foldlM (fun status name => do
    if (NameTable.get? name (← self).aliases).isNone then
      tell s!"unalias: {Text.ofBytes name} not found"
      return 1
    change fun p => { p with aliases := NameTable.put name none p.aliases }
    return status) 0

end UseCase.Shell.Builtin
