import UseCase.Shell.Regex
import UseCase.Shell.Tool.Lines

/-!
# Tools that search and edit

`grep` prints the lines that an expression matches, and `sed` carries out a script of commands on
each line.
-/

namespace UseCase.Shell.Tool

open Text (Bytes)

/-- What `grep` looks for. -/
structure Needle where
  form : Regex.Form
  regexes : List Regex
  /-- Whether a match has to be a whole line, or a whole word. -/
  wholeLine : Bool
  wholeWord : Bool

/-- The expression for a text as it is. -/
def literally (cs : Bytes) : Regex :=
  cs.foldr (fun c r => .append (.char c) r) .empty

/-- What `grep` looks for with its options; nothing if an expression is wrong. -/
def needle? (a : Arguments) (fixed : Bool) (extended : Bool) (patterns : List Bytes) :
    Option Needle := do
  let form : Regex.Form := ⟨extended, a.has 'i' || a.has 'y'⟩
  let regexes ← (patterns.flatMap (Text.segments '\n')).mapM fun p =>
    if fixed then some (literally p) else Regex.ofText? form p
  return ⟨form, regexes, a.has 'x', a.has 'w'⟩

/-- Whether a match is one that counts. -/
def Needle.accepts (n : Needle) (p q : Regex.Place) : Bool :=
  (!n.wholeLine || (p.before.isEmpty && q.rest.isEmpty)) &&
    (!n.wholeWord || (!p.before.head?.any isNameChar && !q.rest.head?.any isNameChar))

/-- The first match at or after a place. -/
def Needle.find? (n : Needle) : (fuel : Nat) → Regex.Place → Option (Regex.Place × Regex.Place)
  | 0, _ => none
  | fuel + 1, p =>
    let ends := n.regexes.flatMap fun r => Regex.ends n.form r p
    match Regex.longest (ends.filter (n.accepts p)) with
    | some q => some (p, q)
    | none => if p.rest.isEmpty then none else n.find? fuel (p.move 1)

/-- Whether a line has a match. -/
def Needle.isIn (n : Needle) (l : Bytes) : Bool :=
  (n.find? (l.length + 1) (.ofText l)).isSome

/-- The matches in a line, one after the other, without empty ones. -/
def Needle.all (n : Needle) : (fuel : Nat) → Regex.Place → List Bytes
  | 0, _ => []
  | fuel + 1, p =>
    match n.find? (p.rest.length + 1) p with
    | none => []
    | some (s, e) =>
      if e.rest.length = s.rest.length then
        if s.rest.isEmpty then [] else n.all fuel (s.move 1)
      else Regex.between s e :: n.all fuel e

/-- The files below a path. -/
def filesBelow : (depth : Nat) → Bytes → FileTree → List (Bytes × Bytes)
  | _, path, .file content _ => [(path, content.bytes)]
  | 0, _, _ | _, _, .link _ | _, _, .device _ _ => []
  | depth + 1, path, .directory entries _ =>
    (Pattern.sorted (entries.map fun (name, _) => name.bytes)).flatMap fun name =>
      match FileTree.child? (.ofBytes name) entries with
      | some t => filesBelow depth (joinPath path name) t
      | none => []

/-- Prints the lines with a match. -/
def grepWith (fixed extended : Bool) : Tool := fun _ args =>
  let long := [("quiet", 'q'), ("silent", 'q'), ("invert-match", 'v'), ("count", 'c'),
    ("ignore-case", 'i'), ("line-number", 'n'), ("files-with-matches", 'l'), ("line-regexp", 'x'),
    ("word-regexp", 'w'), ("only-matching", 'o'), ("fixed-strings", 'F'),
    ("extended-regexp", 'E'), ("no-messages", 's'), ("recursive", 'r'), ("regexp", 'e'),
    ("no-filename", 'h'), ("with-filename", 'H'), ("max-count", 'm')]
  let a := arguments "qvcinlLxwoFEGPsrRhHaIzbyU" "emfABC" long args
  checked "grep" 2 a do
    let given := a.values 'e'
    let (patterns, paths) := match given, a.operands with
      | [], p :: paths => ([p], paths)
      | ps, paths => (ps, paths)
    if patterns.isEmpty then
      Eval.tell "Usage: grep [OPTION]... PATTERNS [FILE]..."
      Eval.tell "Try 'grep --help' for more information."
      return 2
    let deep := a.has 'r' || a.has 'R'
    let extended := extended || a.has 'E' || a.has 'P'
    match needle? a (fixed || a.has 'F') extended patterns with
    | none =>
      tell "grep" "Invalid regular expression"
      return 2
    | some needle =>
      let (files, status) ←
        if deep then do
          let fs := (← Eval.world).files
          let found := (if paths.isEmpty then [['.']] else paths).filterMap fun path =>
            (fs.find (Text.ofBytes path)).toOption.map (filesBelow 100 path)
          pure (found.flatten, 0)
        else (if paths.isEmpty then [['-']] else paths).foldlM (fun (files, status) path => do
          match ← read path with
          | .ok bs => return (files ++ [(path, bs)], status)
          | .error cause =>
            unless a.has 's' do tell "grep" s!"{Text.ofBytes path}: {cause.reason}"
            return (files, 2)) ([], 0)
      let most := ((a.value? 'm').bind Text.digits?)
      let named := (1 < paths.length || deep || a.has 'H') && !a.has 'h'
      let blocks := files.map fun (path, bs) =>
        let hits := (lines bs).zipIdx.filter fun (l, _) => needle.isIn l != a.has 'v'
        let hits := match most with
          | some n => hits.take n
          | none => hits
        let front := fun (i : Nat) =>
          (if named then path ++ [':'] else []) ++
            (if a.has 'n' then Nat.toDigits 10 (i + 1) ++ [':'] else [])
        let text :=
          if a.has 'l' then if hits.isEmpty then [] else path ++ ['\n']
          else if a.has 'L' then if hits.isEmpty then path ++ ['\n'] else []
          else if a.has 'c' then
            (if named then path ++ [':'] else []) ++ Nat.toDigits 10 hits.length ++ ['\n']
          else if a.has 'o' then
            hits.flatMap fun (l, i) =>
              (needle.all (l.length + 1) (.ofText l)).flatMap fun m => front i ++ m ++ ['\n']
          else hits.flatMap fun (l, i) => front i ++ l ++ ['\n']
        (text, !hits.isEmpty)
      let isFound := blocks.any Prod.snd
      let printed ← if a.has 'q' then pure 0 else output 0 (blocks.map Prod.fst).flatten
      if isFound && a.has 'q' then return 0
      if status != 0 || printed != 0 then return 2
      return if isFound then 0 else 1

/-- A line that a command of `sed` is for. -/
inductive Address where
  | line (n : Nat)
  | last
  | regex (r : Regex)

/-- What a command of `sed` does. -/
inductive Edit where
  | delete
  | print
  | number
  | quit (prints : Bool)
  | next
  | substitute (folds : Bool) (r : Regex) (replacement : Bytes) (which : Nat) (all prints : Bool)
  | translate (old new : Bytes)
  | append (text : Bytes)
  | insert (text : Bytes)
  | change (text : Bytes)
  | block (number : Nat)

/-- A command of `sed` with the lines that it is for. -/
structure EditCommand where
  first : Option Address
  second : Option Address
  negated : Bool
  edit : Edit
  /-- The number of commands that follow which belong to a block of this one. -/
  span : Nat

/-- The text up to a mark, in which a backslash protects the mark. -/
def takeTo (mark : Char) : Bytes → Option (Bytes × Bytes)
  | [] => none
  | '\\' :: c :: rest =>
    (takeTo mark rest).map fun (cs, rest) =>
      (if c = mark then c :: cs else '\\' :: c :: cs, rest)
  | c :: rest =>
    if c = mark then some ([], rest) else (takeTo mark rest).map fun (cs, rest) => (c :: cs, rest)

/-- Reads an address. -/
def address? (form : Regex.Form) (cs : Bytes) : Option (Option Address × Bytes) :=
  match cs with
  | '$' :: rest => some (some .last, rest)
  | '/' :: rest => do
    let (text, rest) ← takeTo '/' rest
    return (some (.regex (← Regex.ofText? form text)), rest)
  | c :: _ =>
    if c.isDigit then
      some ((Text.digits? (cs.takeWhile Char.isDigit)).map .line, cs.dropWhile Char.isDigit)
    else some (none, cs)
  | [] => some (none, [])

/-- The text without blanks in front. -/
def skipBlanks (cs : Bytes) : Bytes :=
  cs.dropWhile fun c => c == ' ' || c == '\t'

/-- The text of a command that adds lines. -/
def editText (cs : Bytes) : Bytes × Bytes :=
  let cs := skipBlanks cs
  let cs := match cs with
    | '\\' :: '\n' :: rest => rest
    | '\\' :: rest => skipBlanks rest
    | cs => cs
  (cs.takeWhile (· != '\n'), cs.dropWhile (· != '\n'))

/-- Reads what a command does. -/
def edit? (form : Regex.Form) (cs : Bytes) : Option (Edit × Bytes) :=
  match cs with
  | 'd' :: rest => some (.delete, rest)
  | 'p' :: rest => some (.print, rest)
  | '=' :: rest => some (.number, rest)
  | 'q' :: rest => some (.quit true, rest)
  | 'Q' :: rest => some (.quit false, rest)
  | 'n' :: rest => some (.next, rest)
  | '\x7b' :: rest => some (.block 0, rest)
  | 'a' :: rest => let (text, rest) := editText rest; some (.append text, rest)
  | 'i' :: rest => let (text, rest) := editText rest; some (.insert text, rest)
  | 'c' :: rest => let (text, rest) := editText rest; some (.change text, rest)
  | 's' :: mark :: rest => do
    let (text, rest) ← takeTo mark rest
    let (replacement, rest) ← takeTo mark rest
    let isFlag := fun (c : Char) => ['g', 'p', 'i', 'I'].contains c || c.isDigit
    let flags := rest.takeWhile isFlag
    let folds := flags.contains 'i' || flags.contains 'I'
    let r ← Regex.ofText? form text
    let which := (Text.digits? (flags.filter Char.isDigit)).getD 1
    return (.substitute folds r replacement which (flags.contains 'g') (flags.contains 'p'),
      rest.drop flags.length)
  | 'y' :: mark :: rest => do
    let (old, rest) ← takeTo mark rest
    let (new, rest) ← takeTo mark rest
    return (.translate old new, rest)
  | _ => none

/-- Reads the commands of a script up to its end or the end of a block; a block comes in front of
its commands, with their number. -/
def edits? (form : Regex.Form) : (fuel : Nat) → Bytes → Option (List EditCommand × Bytes)
  | 0, _ => none
  | fuel + 1, cs => do
    match cs.dropWhile fun c => c == ' ' || c == '\t' || c == '\n' || c == ';' with
    | [] => return ([], [])
    | '\x7d' :: rest => return ([], rest)
    | '#' :: rest => edits? form fuel (rest.dropWhile (· != '\n'))
    | cs =>
      let (first, rest) ← address? form cs
      let (second, rest) ← match rest with
        | ',' :: rest => address? form (skipBlanks rest)
        | rest => some (none, rest)
      let rest := skipBlanks rest
      let negated := rest.head? == some '!'
      let (e, rest) ← edit? form (skipBlanks (if negated then rest.drop 1 else rest))
      match e with
      | .block _ =>
        let (inner, rest) ← edits? form fuel rest
        let (more, rest) ← edits? form fuel rest
        return (⟨first, second, negated, e, inner.length⟩ :: (inner ++ more), rest)
      | e =>
        let (more, rest) ← edits? form fuel rest
        return (⟨first, second, negated, e, 0⟩ :: more, rest)

/-- A text in which signs stand for a match and its groups. -/
def replaced (p : Regex.Place) (q : Regex.Place) : Bytes → Bytes
  | [] => []
  | '\\' :: 'n' :: rest => '\n' :: replaced p q rest
  | '\\' :: 't' :: rest => '\t' :: replaced p q rest
  | '\\' :: c :: rest =>
    let group := if c = '0' then some (Regex.between p q)
      else if c.isDigit then
        some (((q.groups.find? fun (k, _) => k == c.toNat - '0'.toNat).map Prod.snd).getD [])
      else none
    (group.getD [c]) ++ replaced p q rest
  | '&' :: rest => Regex.between p q ++ replaced p q rest
  | c :: rest => c :: replaced p q rest

/-- A line with matches replaced: the `which`-th one, and all after it if asked. -/
def substituted (form : Regex.Form) (r : Regex) (replacement : Bytes) (all : Bool) :
    (fuel which : Nat) → Regex.Place → Option Bytes
  | 0, _, _ => none
  | fuel + 1, which, p =>
    match Regex.find? form r { p with groups := [] } with
    | none => none
    | some (s, e) =>
      let front := Regex.between p s
      let isEmpty := s.rest.length = e.rest.length
      let rest := fun (which : Nat) =>
        if isEmpty then
          match e.rest with
          | [] => none
          | c :: _ => (substituted form r replacement all fuel which (e.move 1)).map (c :: ·)
        else substituted form r replacement all fuel which e
      if 1 < which then (rest (which - 1)).map fun more => front ++ Regex.between s e ++ more
      else
        let new := front ++ replaced s e replacement
        some (match if all then rest 1 else none with
          | some more => new ++ more
          | none => new ++ e.rest)

/-- The state of an edit: the line, its number, what was printed, and which ranges are open. -/
structure Editing where
  space : Bytes
  number : Nat
  /-- The lines to come. -/
  rest : List Bytes
  printed : List Bytes
  /-- What is printed after the line. -/
  after : List Bytes
  /-- The commands whose ranges of lines have begun. -/
  opened : List Nat
  isDeleted : Bool
  stops : Bool

/-- Whether an address is that of the line. -/
def Editing.at (form : Regex.Form) (s : Editing) : Address → Bool
  | .line n => s.number == n
  | .last => s.rest.isEmpty
  | .regex r => Regex.isIn form r s.space

/-- Whether a command is for the line, and the ranges that are open then. -/
def Editing.applies (form : Regex.Form) (s : Editing) (index : Nat) (c : EditCommand) :
    Bool × List Nat :=
  match c.first, c.second with
  | none, _ => (true, s.opened)
  | some x, none => (s.at form x, s.opened)
  | some x, some y =>
    if s.opened.contains index then
      let ends : Bool := match y with
        | .line n => n ≤ s.number
        | y => s.at form y
      (true, if ends then s.opened.filter (· != index) else s.opened)
    else if s.at form x then
      let ends : Bool := match y with
        | .line n => n ≤ s.number
        | .last => s.rest.isEmpty
        | .regex _ => false
      (true, if ends then s.opened else index :: s.opened)
    else (false, s.opened)

/-- Carries out what a command does. -/
def Editing.edit (form : Regex.Form) (quiet : Bool) (s : Editing) : Edit → Editing
  | .delete => { s with isDeleted := true }
  | .print => { s with printed := s.space :: s.printed }
  | .number => { s with printed := (toString s.number).toList :: s.printed }
  | .quit prints => { s with stops := true, isDeleted := s.isDeleted || !prints }
  | .next =>
    let printed := if quiet then s.printed else s.space :: s.printed
    match s.rest with
    | [] => { s with isDeleted := true, stops := true, printed := printed }
    | l :: rest => { s with printed := printed, space := l, rest := rest, number := s.number + 1 }
  | .substitute folds r replacement which all prints =>
    let form := { form with ignoresCase := folds }
    match substituted form r replacement all (s.space.length + 2) which (.ofText s.space) with
    | none => s
    | some space =>
      { s with space := space, printed := if prints then space :: s.printed else s.printed }
  | .translate old new =>
    { s with space := s.space.map fun c => match old.idxOf? c with
        | some i => (new[i]?).getD c
        | none => c }
  | .append text => { s with after := text :: s.after }
  | .insert text => { s with printed := text :: s.printed }
  | .change text => { s with printed := text :: s.printed, isDeleted := true }
  | .block _ => s

/-- Carries out commands on the line. -/
def Editing.runAll (form : Regex.Form) (quiet : Bool) :
    (fuel : Nat) → Editing → (index : Nat) → List EditCommand → Editing
  | 0, s, _, _ | _, s, _, [] => s
  | fuel + 1, s, index, c :: rest =>
    let (holds, opened) := s.applies form index c
    let s := { s with opened := opened }
    if holds != c.negated then
      let s := s.edit form quiet c.edit
      if s.isDeleted || s.stops then s else s.runAll form quiet fuel (index + 1) rest
    else s.runAll form quiet fuel (index + 1 + c.span) (rest.drop c.span)

/-- Carries out commands on all lines. -/
def editAll (form : Regex.Form) (quiet : Bool) (commands : List EditCommand) :
    (fuel : Nat) → Editing → Editing
  | 0, s => s
  | fuel + 1, s =>
    match s.rest with
    | [] => s
    | l :: rest =>
      let s := { s with
        space := l
        number := s.number + 1
        rest := rest
        after := []
        isDeleted := false }
      let s := s.runAll form quiet (commands.length + 1) 0 commands
      let printed := if s.isDeleted || quiet then s.printed else s.space :: s.printed
      let s := { s with printed := s.after ++ printed }
      if s.stops then s else editAll form quiet commands fuel s

/-- The lines of a text after editing. -/
def edited (form : Regex.Form) (quiet : Bool) (commands : List EditCommand) (bs : Bytes) : Bytes :=
  let ls := lines bs
  let s := editAll form quiet commands (ls.length + 1) ⟨[], 0, ls, [], [], [], false, false⟩
  let out := unlines s.printed.reverse
  if bs.isEmpty || bs.getLast? == some '\n' then out else out.dropLast

/-- Edits lines. -/
def streamEdit : Tool := fun _ args =>
  let long := [("quiet", 'n'), ("silent", 'n'), ("expression", 'e'), ("in-place", 'i'),
    ("regexp-extended", 'E')]
  let a := arguments "nirEsuz" "ef" long args
  checked "sed" 1 a do
    let form : Regex.Form := ⟨a.has 'E' || a.has 'r', false⟩
    let (scripts, paths) := match a.values 'e', a.operands with
      | [], s :: paths => ([s], paths)
      | ss, paths => (ss, paths)
    let script := ['\n'].intercalate scripts
    match edits? form (script.length + 1) script with
    | none =>
      tell "sed" "-e expression #1: unknown command"
      return 1
    | some (commands, _) =>
      let quiet := a.has 'n'
      if a.has 'i' then
        paths.foldlM (fun status path => do
          match ← read path, (← Eval.world).files.target (Text.ofBytes path) with
          | .ok bs, .ok names =>
            let new := Content.ofBytes (edited form quiet commands bs)
            putFile names new
            return status
          | _, _ =>
            tell "sed" s!"can't read {Text.ofBytes path}: No such file or directory"
            return 2) 0
      else
        let (files, status) ← (if paths.isEmpty then [['-']] else paths).foldlM
          (fun (files, status) path => do
            match ← read path with
            | .ok bs => return (files ++ [bs], status)
            | .error cause =>
              tell "sed" s!"can't read {Text.ofBytes path}: {cause.reason}"
              return (files, 2)) ([], 0)
        output status (edited form quiet commands files.flatten)

end UseCase.Shell.Tool
