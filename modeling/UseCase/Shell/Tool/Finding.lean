import UseCase.Shell.Regex
import UseCase.Shell.Tool.Listing

/-!
# Searching for files

`find` goes through directories and decides an expression for each file: conditions and actions with
negation, conjunction and disjunction. An expression without actions prints the files for which it
holds.
-/

namespace UseCase.Shell.Tool

open Text (Bytes)

/-- How a number compares with the one that is asked for. -/
inductive Bound where
  | below
  | exactly
  | above
  deriving DecidableEq

/-- What `find` asks about a file, and what it does with it. -/
inductive Search where
  | constant (holds : Bool)
  | name (ignoresCase : Bool) (pattern : Bytes)
  | path (ignoresCase : Bool) (pattern : Bytes)
  | regex (form : Regex.Form) (r : Regex)
  | kind (letters : Bytes)
  | isEmpty
  | size (bound : Bound) (count unit : Nat)
  | links (bound : Bound) (count : Nat)
  /-- Whether the age of a file, which is none, is as it is asked for. -/
  | age (bound : Bound) (count : Nat)
  /-- Whether all bits, one of them or exactly these are among the permissions. -/
  | mode (op : Option Char) (bits : Nat)
  | negated (s : Search)
  | both (s t : Search)
  | either (s t : Search)
  | print (ending : Char)
  | format (text : Bytes)
  | run (command : List Bytes)
  /-- Runs a command once with all files at its end. -/
  | gather (command : List Bytes)
  | delete
  | prune
  | quit

/-- What `find` is asked. -/
structure Hunt where
  most : Nat
  least : Nat
  /-- Whether what a directory holds comes before it. -/
  isUpward : Bool
  /-- Whether links are followed. -/
  follows : Bool

namespace Search

/-- Whether a search does something with the files. -/
def acts : Search → Bool
  | negated s => s.acts
  | both s t | either s t => s.acts || t.acts
  | print _ | format _ | run _ | gather _ | delete | quit => true
  | _ => false

/-- Whether a search removes files. -/
def deletes : Search → Bool
  | negated s => s.deletes
  | both s t | either s t => s.deletes || t.deletes
  | delete => true
  | _ => false

/-- The pattern of a text without protected characters. -/
def patternOf (cs : Bytes) : Pattern :=
  Pattern.ofMarks (cs.map fun c => ⟨c, false⟩)

end Search

/-- Whether a number is as it is asked for. -/
def Bound.holds (b : Bound) (n asked : Nat) : Bool :=
  match b with
  | below => n < asked
  | exactly => n == asked
  | above => asked < n

/-! ### Reading -/

/-- Reads an expression off the front of some arguments. -/
abbrev HuntReader := List Bytes → StateT Hunt (Except String) (Search × List Bytes)

/-- A number with a sign in front that tells how others compare with it. -/
def bounded? (cs : Bytes) : Option (Bound × Nat × Bytes) :=
  let (bound, cs) := match cs with
    | '+' :: rest => (Bound.above, rest)
    | '-' :: rest => (Bound.below, rest)
    | cs => (Bound.exactly, cs)
  let digits := cs.takeWhile Char.isDigit
  (Text.digits? digits).map fun n => (bound, n, cs.drop digits.length)

/-- The number of bytes of a unit of sizes. -/
def sizeUnit? (cs : Bytes) : Option Nat :=
  match cs with
  | [] | ['b'] => some 512
  | ['c'] => some 1
  | ['w'] => some 2
  | ['k'] => some 1024
  | ['M'] => some 1048576
  | ['G'] => some 1073741824
  | _ => none

/-- A condition with a value. -/
def valued? (name : String) (value : Bytes) : Except String (Option Search) :=
  let shown := Text.ofBytes value
  let wrong := fun {α : Type} => (throw s!"invalid argument '{shown}' to '{name}'" : Except String α)
  let form : Regex.Form := ⟨false, false⟩
  match name with
  | "-name" => return some (.name false value)
  | "-iname" => return some (.name true value)
  | "-path" | "-wholename" => return some (.path false value)
  | "-ipath" | "-iwholename" => return some (.path true value)
  | "-regex" | "-iregex" =>
    let form := { form with ignoresCase := name == "-iregex" }
    match Regex.ofText? form value with
    | some r => return some (.regex form r)
    | none => wrong
  | "-type" | "-xtype" =>
    let letters := value.filter (· != ',')
    match letters.find? fun c => !"bcdpfls".toList.contains c with
    | some _ => throw s!"Unknown argument to -type: {shown}"
    | none => return some (.kind letters)
  | "-size" =>
    match bounded? value with
    | some (bound, n, unit) =>
      match sizeUnit? unit with
      | some unit => return some (.size bound n unit)
      | none => throw s!"Invalid argument '{shown}' to -size"
    | none => throw s!"Invalid argument '{shown}' to -size"
  | "-links" =>
    match bounded? value with
    | some (bound, n, []) => return some (.links bound n)
    | _ => wrong
  | "-mtime" | "-mmin" | "-atime" | "-amin" | "-ctime" | "-cmin" =>
    match bounded? value with
    | some (bound, n, []) => return some (.age bound n)
    | _ => wrong
  | "-newer" | "-anewer" | "-cnewer" => return some (.constant false)
  | "-user" | "-group" => return some (.constant (shown == "root" || shown == "0"))
  | "-uid" | "-gid" => return some (.constant (shown == "0"))
  | "-perm" =>
    let (op, text) := match value with
      | '-' :: rest => (some '-', rest)
      | '/' :: rest => (some '/', rest)
      | value => (none, value)
    match modeFrom? 0 false 0 text with
    | some bits => return some (.mode op bits)
    | none => throw s!"invalid mode '{shown}'"
  | "-printf" => return some (.format value)
  | _ => return none

/-- A condition or an action without a value. -/
def plain? (name : String) : Option Search :=
  match name with
  | "-true" => some (.constant true)
  | "-false" => some (.constant false)
  | "-empty" => some .isEmpty
  | "-print" => some (.print '\n')
  | "-print0" => some (.print '\x00')
  | "-delete" => some .delete
  | "-prune" => some .prune
  | "-quit" => some .quit
  | "-readable" | "-writable" => some (.constant true)
  | "-executable" => some (.mode (some '/') 0o111)
  | "-daystart" | "-mount" | "-xdev" | "-noleaf" | "-warn" | "-nowarn" => some (.constant true)
  | _ => none

/-- The names that take a value. -/
def valuedNames : List String :=
  ["-name", "-iname", "-path", "-wholename", "-ipath", "-iwholename", "-regex", "-iregex", "-type",
    "-xtype", "-size", "-links", "-mtime", "-mmin", "-atime", "-amin", "-ctime", "-cmin", "-newer",
    "-anewer", "-cnewer", "-user", "-group", "-uid", "-gid", "-perm", "-printf", "-regextype"]

/-- Reads a condition or an action. -/
def readPrimary (whole : HuntReader) : HuntReader
  | [] => throw "expected an expression"
  | arg :: rest => do
    let name := Text.ofBytes arg
    let depth := fun (set : Nat → Hunt → Hunt) => do
      match rest with
      | [] => throw s!"missing argument to \x60{name}\x27"
      | value :: rest =>
        match Text.digits? value with
        | some n =>
          modify (set n)
          return (Search.constant true, rest)
        | none =>
          throw (s!"Expected a positive decimal integer argument to {name}, but got " ++
            s!"'{Text.ofBytes value}'")
    match name with
    | "(" => do
      let (s, rest) ← whole rest
      match rest with
      | [')'] :: rest => return (s, rest)
      | _ =>
        throw ("invalid expression; I was expecting to find a ')' somewhere but did not see one.")
    | "-maxdepth" => depth fun n h => { h with most := n }
    | "-mindepth" => depth fun n h => { h with least := n }
    | "-depth" | "-d" => do
      modify fun h => { h with isUpward := true }
      return (.constant true, rest)
    | "-follow" => do
      modify fun h => { h with follows := true }
      return (.constant true, rest)
    | "-regextype" => return (.constant true, rest.drop 1)
    | "-exec" | "-execdir" => do
      let isEnd := fun (arg : Bytes) => arg == [';'] || arg == ['+']
      let command := rest.takeWhile fun arg => !isEnd arg
      match rest.drop command.length with
      | [';'] :: rest => return (.run command, rest)
      | ['+'] :: rest => return (.gather command.dropLast, rest)
      | _ => throw s!"missing argument to \x60{name}\x27"
    | _ =>
      if valuedNames.contains name then
        match rest with
        | [] => throw s!"missing argument to \x60{name}\x27"
        | value :: rest =>
          match valued? name value with
          | .ok (some s) => return (s, rest)
          | .ok none => return (.constant true, rest)
          | .error text => throw text
      else match plain? name with
        | some s => return (s, rest)
        | none =>
          if arg.head? = some '-' then throw s!"unknown predicate \x60{name}\x27"
          else throw s!"paths must precede expression: \x60{name}\x27"

/-- Reads a primary with signs of negation in front. -/
def readNegated (whole : HuntReader) : (fuel : Nat) → HuntReader
  | fuel + 1, arg :: rest => do
    if arg = ['!'] ∨ arg = "-not".toList then
      if rest.isEmpty then throw s!"expected an expression after '{Text.ofBytes arg}'"
      let (s, rest) ← readNegated whole fuel rest
      return (.negated s, rest)
    else readPrimary whole (arg :: rest)
  | _, args => readPrimary whole args

/-- Whether an argument ends a conjunction. -/
def endsConjunction (arg : Bytes) : Bool :=
  ["-o", "-or", ")", ","].contains (Text.ofBytes arg)

/-- Reads conditions of which all have to hold. -/
def readBoth (whole : HuntReader) : (fuel : Nat) → HuntReader
  | 0, _ => throw "expected an expression"
  | fuel + 1, args => do
    let (s, rest) ← readNegated whole args.length args
    match rest with
    | [] => return (s, [])
    | arg :: more =>
      if endsConjunction arg then return (s, rest)
      let isAnd := arg == "-a".toList || arg == "-and".toList
      let (t, rest) ← readBoth whole fuel (if isAnd then more else rest)
      return (.both s t, rest)

/-- Reads conditions of which one has to hold. -/
def readEither (whole : HuntReader) : (fuel : Nat) → HuntReader
  | 0, _ => throw "expected an expression"
  | fuel + 1, args => do
    if let some arg := args.head? then
      if endsConjunction arg then
        throw (s!"invalid expression; you have used a binary operator '{Text.ofBytes arg}' " ++
          "with nothing before it.")
    let (s, rest) ← readBoth whole (args.length + 1) args
    match rest with
    | arg :: rest =>
      if arg = "-o".toList ∨ arg = "-or".toList then
        let (t, rest) ← readEither whole fuel rest
        return (.either s t, rest)
      else return (s, arg :: rest)
    | [] => return (s, [])

/-- Reads an expression with parentheses that nest at most `depth` deep. -/
def readSearch : (depth : Nat) → HuntReader
  | 0, _ => throw "expected an expression"
  | depth + 1, args => readEither (readSearch depth) (args.length + 1) args

/-- What arguments ask `find`; without an action the files are printed. -/
def huntOf (args : List Bytes) : Except String (Search × Hunt) := do
  let start : Hunt := ⟨1000, 0, false, false⟩
  if args.isEmpty then return (.print '\n', start)
  let ((s, rest), h) ← (readSearch (args.length + 1) args).run start
  match rest with
  | [] =>
    let h := if s.deletes then { h with isUpward := true } else h
    return (if s.acts then s else .both s (.print '\n'), h)
  | arg :: _ => throw s!"paths must precede expression: \x60{Text.ofBytes arg}\x27"

/-! ### Going through the files -/

/-- A file that was come across. -/
structure Found where
  path : Bytes
  /-- The path of the starting point. -/
  start : Bytes
  depth : Nat
  tree : FileTree

/-- What has to be remembered on the way. -/
structure Pursuit where
  /-- Whether the directory at hand is not gone into. -/
  isPruned : Bool
  /-- The files for commands that are run at the end, the latest first. -/
  gathered : List (List Bytes × Bytes)
  stops : Bool
  status : Nat

/-- What a directive in a format of `find` stands for. -/
def foundText (f : Found) (c : Char) : Bytes :=
  let below := (f.path.drop f.start.length).dropWhile (· == '/')
  match c with
  | 'p' => f.path
  | 'f' => fileName f.path
  | 'h' =>
    if f.path.contains '/' then
      ((f.path.reverse.dropWhile (· != '/')).drop 1).reverse
    else ['.']
  | 'P' => below
  | 'H' => f.start
  | 'd' => Nat.toDigits 10 f.depth
  | 's' => Nat.toDigits 10 (sizeOfFile f.tree)
  | 'm' => Nat.toDigits 8 f.tree.mode
  | 'M' => (letters10 f.tree).toList
  | 'n' => Nat.toDigits 10 (nameCount f.tree)
  | 'y' => [match f.tree with
    | .file _ _ => 'f'
    | t => kindLetter t]
  | 'l' =>
    match f.tree with
    | .link goal => Text.bytes goal.shown
    | _ => []
  | 'u' | 'g' => "root".toList
  | 'U' | 'G' => ['0']
  | '%' => ['%']
  | c => ['%', c]

/-- A format of `find` with a file in place of its directives. -/
def foundIn (f : Found) : (fuel : Nat) → Bytes → Bytes
  | 0, _ | _, [] => []
  | fuel + 1, '%' :: c :: rest => foundText f c ++ foundIn f fuel rest
  | fuel + 1, '\\' :: c :: rest =>
    let (d, rest) := escape (c :: rest)
    d :: foundIn f fuel rest
  | fuel + 1, c :: rest => c :: foundIn f fuel rest

/-- Whether a file is what a condition asks for. -/
def Found.matches (f : Found) : Search → Bool
  | .constant holds => holds
  | .name ignoresCase pattern =>
    let fold := fun (cs : Bytes) => if ignoresCase then cs.map Char.toLower else cs
    (Search.patternOf (fold pattern)).isMatch (fold (fileName f.path))
  | .path ignoresCase pattern =>
    let fold := fun (cs : Bytes) => if ignoresCase then cs.map Char.toLower else cs
    (Search.patternOf (fold pattern)).isMatch (fold f.path)
  | .regex form r => (Regex.ends form r (.ofText f.path)).any fun p => p.rest.isEmpty
  | .kind letters =>
    letters.any fun c => match f.tree with
      | .file _ _ => c == 'f'
      | .directory _ _ => c == 'd'
      | .link _ => c == 'l'
      | .device _ _ => c == 'c'
  | .isEmpty =>
    match f.tree with
    | .directory entries _ => entries.isEmpty
    | .file content _ => content.bytes.isEmpty
    | .link _ | .device _ _ => false
  | .size bound count unit => bound.holds ((sizeOfFile f.tree + unit - 1) / unit) count
  | .links bound count => bound.holds (nameCount f.tree) count
  | .age bound count => bound.holds 0 count
  | .mode op bits =>
    let common := f.tree.mode &&& bits
    match op with
    | some '-' => common == bits
    | some _ => bits == 0 || common != 0
    | none => f.tree.mode == bits
  | _ => false

/-- The words of a command with a path in place of braces. -/
def withPath (path : Bytes) (command : List Bytes) : List Bytes :=
  command.map fun arg =>
    if arg.length < 2 then arg
    else
      let pieces := Text.segments '\x7b' arg
      (pieces.headD []) ++ (pieces.drop 1).flatMap fun piece =>
        if piece.head? = some '\x7d' then path ++ piece.drop 1 else '\x7b' :: piece

/-- Decides an expression for a file, and carries out its actions. -/
def Found.decide (again : List Bytes → Eval Nat) (f : Found) :
    Search → StateT Pursuit Eval Bool
  | .negated s => return !(← f.decide again s)
  | .both s t => do if ← f.decide again s then f.decide again t else return false
  | .either s t => do if ← f.decide again s then return true else f.decide again t
  | .print ending => do
    let _ ← output 0 (f.path ++ [ending])
    return true
  | .format text => do
    let _ ← output 0 (foundIn f (text.length + 1) text)
    return true
  | .run command => do return (← again (withPath f.path command)) == 0
  | .gather command => do
    modify fun p => { p with gathered := (command, f.path) :: p.gathered }
    return true
  | .delete => do
    if f.path = ['.'] then return true
    let fs := (← Eval.world).files
    match fs.locateEntry (Text.ofBytes f.path) with
    | .ok names =>
      match fs.at? names with
      | some (.directory (_ :: _) _) =>
        let shown := Text.ofBytes f.path
        tell "find" s!"cannot delete '{shown}': {SystemFault.notEmpty.reason}"
        modify fun p => { p with status := 1 }
        return false
      | _ =>
        setFiles (fs.set names none)
        return true
    | .error _ => return false
  | .prune => do
    modify fun p => { p with isPruned := true }
    return true
  | .quit => do
    modify fun p => { p with stops := true }
    return true
  | s => return f.matches s

/-- Goes through a file and those in it. -/
def pursue (again : List Bytes → Eval Nat) (s : Search) (h : Hunt) :
    (fuel : Nat) → Found → StateT Pursuit Eval Unit
  | 0, _ => return
  | fuel + 1, f => do
    let here : StateT Pursuit Eval Unit := do
      if h.least ≤ f.depth && !(← get).stops then
        let _ ← f.decide again s
    let below : StateT Pursuit Eval Unit := do
      if h.most ≤ f.depth || (← get).stops then return
      let names := Pattern.sorted (f.tree.children.map fun (name, _) => name.bytes)
      let fs := (← Eval.world).files
      names.forM fun name => do
        match FileTree.child? (.ofBytes name) f.tree.children with
        | some t =>
          let path := joinPath f.path name
          let t := match t, h.follows with
            | .link _, true => (fs.find (Text.ofBytes path)).toOption.getD t
            | _, _ => t
          pursue again s h fuel { f with path := path, depth := f.depth + 1, tree := t }
        | none => return
    if h.isUpward then
      below
      here
    else
      modify fun p => { p with isPruned := false }
      here
      if !(← get).isPruned then below

/-- The commands that are run at the end with the files for each of them. -/
def gatheredCalls (gathered : List (List Bytes × Bytes)) : List (List Bytes) :=
  let commands := (gathered.map Prod.fst).eraseDups.reverse
  commands.map fun command =>
    command ++ (gathered.reverse.filter fun (c, _) => c == command).map Prod.snd

/-- Searches for files. -/
def find : Tool := fun again args => do
  let isOption := fun (arg : Bytes) => arg == "-L".toList || arg == "-H".toList ||
    arg == "-P".toList
  let options := args.takeWhile isOption
  let args := args.drop options.length
  let isPath := fun (arg : Bytes) =>
    arg.head? != some '-' && arg != ['!'] && arg != ['(']
  let paths := args.takeWhile isPath
  match huntOf (args.drop paths.length) with
  | .error text =>
    tell "find" text
    return 1
  | .ok (s, h) =>
    let follows := h.follows || options.contains "-L".toList
    let h := { h with follows := follows }
    let visit : StateT Pursuit Eval Unit :=
      (if paths.isEmpty then [['.']] else paths).forM fun path => do
        let fs := (← Eval.world).files
        let text := Text.ofBytes path
        match if follows || options.contains "-H".toList then fs.find text
            else fs.findEntry text with
        | .error cause =>
          tell "find" s!"'{text}': {cause.reason}"
          modify fun p => { p with status := 1 }
        | .ok t => pursue again s h 1000 ⟨path, path, 0, t⟩
    let (_, p) ← visit.run ⟨false, [], false, 0⟩
    (gatheredCalls p.gathered).foldlM (fun status call => do
      return if (← again call) = 0 then status else 1) p.status

end UseCase.Shell.Tool
