import UseCase.Shell.Tool.FileSystem

/-!
# Tools that tell about files

`ls` lists files and directories, `stat` tells what is asked about a file, and others take paths apart
or find out where they lead. The times of files are not known; all of them are shown as the same.
-/

namespace UseCase.Shell.Tool

open Text (Bytes)

/-! ### What there is to tell about a file -/

/-- The letter for the kind of a file. -/
def kindLetter : FileTree → Char
  | .file _ _ => '-'
  | .directory _ _ => 'd'
  | .link _ => 'l'
  | .device _ _ => 'c'

/-- The words for the kind of a file. -/
def kindText : FileTree → String
  | .file content _ => if content.bytes.isEmpty then "regular empty file" else "regular file"
  | .directory _ _ => "directory"
  | .link _ => "symbolic link"
  | .device _ _ => "character special file"

/-- The number of bytes of a file. -/
def sizeOfFile : FileTree → Nat
  | .file content _ => content.bytes.length
  | .directory _ _ => 4096
  | .link path => path.shown.utf8ByteSize
  | .device _ _ => 0

/-- The number of kilobytes that a file takes up. -/
def blocksOf : FileTree → Nat
  | .file content _ => (content.bytes.length + 4095) / 4096 * 4
  | .directory _ _ => 4
  | .link _ | .device _ _ => 0

/-- The number of names of a file; a directory is also known to those in it. -/
def nameCount (t : FileTree) : Nat :=
  if t.isDirectory then 2 + (t.children.filter fun (_, c) => c.isDirectory).length else 1

/-- The kind and the permissions of a file in letters. -/
def letters10 (t : FileTree) : String :=
  String.ofList [kindLetter t] ++ modeLetters t.mode

/-! ### Lists -/

/-- Names in the order in which they are listed. -/
def arranged (a : Arguments) (sizeOf : Bytes → Nat) (names : List Bytes) : List Bytes :=
  let names := Pattern.sorted names
  let names := if a.has 'S' then names.mergeSort fun x y => sizeOf y ≤ sizeOf x else names
  if a.has 'r' then names.reverse else names

/-- The names in a directory that are listed. -/
def listed (a : Arguments) (entries : List (FileName × FileTree)) : List FileName :=
  let isShown := fun (name : Bytes) =>
    a.has 'a' || a.has 'A' || a.has 'f' || name.head? != some '.'
  let names := (entries.map fun (name, _) => name.bytes).filter isShown
  let names := if a.has 'a' then ['.'] :: ['.', '.'] :: names else names
  let sizeOf := fun name => ((FileTree.child? (.ofBytes name) entries).map sizeOfFile).getD 4096
  (arranged a sizeOf names).map .ofBytes

/-- The mark behind the name of a file. -/
def markOf (a : Arguments) (t : FileTree) : String :=
  match t with
  | .directory _ _ => if a.has 'F' || a.has 'p' then "/" else ""
  | .file _ mode => if a.has 'F' && mode &&& Permission.forAll 1 != 0 then "*" else ""
  | .link _ => if a.has 'F' && !a.has 'l' then "@" else ""
  | .device _ _ => ""

/-- A text of some width, with blanks in front or behind. -/
def filledText (width : Nat) (isFront : Bool) (text : String) : String :=
  let fill := String.ofList (List.replicate (width - text.length) ' ')
  if isFront then fill ++ text else text ++ fill

/-- The parts of a line with all there is to tell about a file, in front of its name. -/
def longParts (a : Arguments) (t : FileTree) : List String :=
  let owner := if a.has 'n' then "0" else "root"
  [letters10 t, toString (nameCount t)] ++ (if a.has 'g' then [] else [owner]) ++
    (if a.has 'o' || a.has 'G' then [] else [owner]) ++ [toString (sizeOfFile t)]

/-- The lines for files with their names. -/
def listLines (a : Arguments) (found : List (String × FileTree)) : String :=
  let isLong := a.has 'l' || a.has 'n' || a.has 'g' || a.has 'o'
  let width := fun (texts : List String) => (texts.map String.length).foldl max 0
  let blocks := width (found.map fun (_, t) => toString (blocksOf t))
  let rows := found.map fun (_, t) => longParts a t
  let widths := (List.range 5).map fun i => width (rows.map fun parts => (parts[i]?).getD "")
  let last := (longParts a (.link "")).length - 1
  String.join (found.map fun (name, t) =>
    let front := if isLong then
        (longParts a t).zipIdx.map fun (part, i) =>
          filledText ((widths[i]?).getD 0) (i == 1 || i == last) part
      else []
    let size := if a.has 's' then [filledText blocks true (toString (blocksOf t))] else []
    let time := if isLong then ["Jan  1  1970"] else []
    let shown := if a.has 'Q' then "\"" ++ name ++ "\"" else name
    let goal := match t with
      | .link path => if isLong then " -> " ++ path.shown else ""
      | _ => ""
    " ".intercalate (size ++ front ++ time ++ [shown ++ markOf a t ++ goal]) ++ "\n")

/-- The lines for a directory. -/
def listDirectory (a : Arguments) (t : FileTree) : String :=
  let found := (listed a t.children).map fun name =>
    (name.shown, (FileTree.child? name t.children).getD (.directory [] FileTree.openMode))
  let total := (found.map fun (_, t) => blocksOf t).foldl (· + ·) 0
  let isTotalled := a.has 'l' || a.has 'n' || a.has 'g' || a.has 'o' || a.has 's'
  (if isTotalled then s!"total {total}\n" else "") ++
    if a.has 'm' then
      if found.isEmpty then ""
      else ", ".intercalate (found.map fun (name, t) => name ++ markOf a t) ++ "\n"
    else listLines a found

/-- The lines for directories in others, each behind its path. -/
def listDeep (a : Arguments) : (depth : Nat) → String → FileTree → List String
  | 0, _, _ => []
  | depth + 1, path, t =>
    (path ++ ":\n" ++ listDirectory a t) ::
      ((listed a t.children).filter fun name =>
          name != .text "." && name != .text "..").flatMap fun name =>
        match FileTree.child? name t.children with
        | some (.directory entries mode) =>
          listDeep a depth (Text.ofBytes (joinPath (Text.bytes path) name.bytes))
            (.directory entries mode)
        | _ => []

/-- Lists files and directories. -/
def list : Tool := fun _ args =>
  let long := [("all", 'a'), ("almost-all", 'A'), ("directory", 'd'), ("recursive", 'R'),
    ("reverse", 'r'), ("classify", 'F'), ("size", 's'), ("numeric-uid-gid", 'n'),
    ("no-group", 'G'), ("quote-name", 'Q'), ("human-readable", 'h'), ("dereference", 'L')]
  let a := arguments "1aAlhdRrtSFpnoguiskCxmvXLHNQGBbqUfc" "IwT" long args
  checked "ls" 2 a do
    let paths := if a.operands.isEmpty then [['.']] else a.operands
    let fs ← files
    let (found, status) ← paths.foldlM (fun (found, status) path => do
      let text := Text.ofBytes path
      let isLooked := a.has 'l' || a.has 'd' || a.has 'F'
      let entry := match fs.findEntry text, isLooked && !a.has 'L' && !a.has 'H' with
        | .ok t, true => Except.ok t
        | .ok t, false =>
          match fs.find text with
          | .ok u => .ok (if u.isDirectory || a.has 'L' then u else t)
          | .error _ => .ok t
        | .error cause, _ => .error cause
      match entry with
      | .ok t => return (found ++ [(text, t)], status)
      | .error cause =>
        tell "ls" s!"cannot access '{text}': {cause.reason}"
        return (found, 2)) (([] : List (String × FileTree)), 0)
    let inOrder := fun (found : List (String × FileTree)) =>
      let names := arranged a
        (fun path =>
          ((found.find? fun (p, _) => Text.bytes p == path).map fun (_, t) => sizeOfFile t).getD 0)
        (found.map fun (path, _) => Text.bytes path)
      names.filterMap fun name => found.find? fun (path, _) => Text.bytes path == name
    let plain := found.filter fun (_, t) => a.has 'd' || !t.isDirectory
    let directories := found.filter fun (_, t) => !a.has 'd' && t.isDirectory
    let blocks := (if plain.isEmpty then [] else [listLines a (inOrder plain)]) ++
      (inOrder directories).flatMap fun (path, t) =>
        if a.has 'R' then listDeep a 100 path t
        else
          let lines := listDirectory a t
          [if paths.length = 1 then lines else path ++ ":\n" ++ lines]
    output status (Text.bytes ("\n".intercalate blocks))

/-! ### Single facts -/

/-- What a directive in a format stands for. -/
def factText (path : String) (t : FileTree) (c : Char) : String :=
  let kindBits := match t with
    | .file _ _ => 0o100000
    | .directory _ _ => 0o040000
    | .link _ => 0o120000
    | .device _ _ => 0o020000
  match c with
  | 'n' => path
  | 'N' =>
    match t with
    | .link goal => s!"'{path}' -> '{goal.shown}'"
    | _ => s!"'{path}'"
  | 's' => toString (sizeOfFile t)
  | 'F' => kindText t
  | 'a' => String.ofList (Nat.toDigits 8 t.mode)
  | 'A' => letters10 t
  | 'f' => String.ofList (Nat.toDigits 16 (kindBits + t.mode))
  | 'h' => toString (nameCount t)
  | 'u' | 'g' => "0"
  | 'U' | 'G' => "root"
  | 'b' => toString (blocksOf t * 2)
  | 'B' => "512"
  | 'o' => "4096"
  | '%' => "%"
  | _ => "?"

/-- A format with the facts about a file in place of its directives. -/
def factsIn (escapes : Bool) (path : String) (t : FileTree) : (fuel : Nat) → Bytes → Bytes
  | 0, _ | _, [] => []
  | fuel + 1, '%' :: rest =>
    let flags := rest.takeWhile fun c => c.isDigit || c == '-'
    match rest.drop flags.length with
    | c :: rest =>
      let text := factText path t c
      let width := (Text.digits? (flags.filter Char.isDigit)).getD 0
      Text.bytes (filledText width (!flags.contains '-') text) ++
        factsIn escapes path t fuel rest
    | [] => ['%']
  | fuel + 1, '\\' :: c :: rest =>
    if escapes then
      let (d, rest) := escape (c :: rest)
      d :: factsIn escapes path t fuel rest
    else '\\' :: factsIn escapes path t fuel (c :: rest)
  | fuel + 1, c :: rest => c :: factsIn escapes path t fuel rest

/-- Tells what a format asks about files. -/
def status : Tool := fun _ args =>
  let long := [("format", 'c'), ("printf", 'P'), ("dereference", 'L'), ("terse", 't')]
  let a := arguments "Lft" "cP" long args
  checked "stat" 1 a <| needs "stat" 1 a do
    let fs ← files
    a.operands.foldlM (fun status path => do
      let text := Text.ofBytes path
      match if a.has 'L' then fs.find text else fs.findEntry text with
      | .error cause =>
        tell "stat" s!"cannot statx '{text}': {cause.reason}"
        return 1
      | .ok t =>
        match a.value? 'P', a.value? 'c' with
        | some format, _ => output status (factsIn true text t (format.length + 1) format)
        | none, some format =>
          output status (factsIn false text t (format.length + 1) format ++ ['\n'])
        | none, none => return status) 0

/-! ### Paths -/

/-- Prints the last part of a path. -/
def baseName : Tool := fun _ args =>
  let long := [("multiple", 'a'), ("suffix", 's'), ("zero", 'z')]
  let a := arguments "az" "s" long args
  checked "basename" 1 a <| needs "basename" 1 a do
    let cut := fun (suffix name : Bytes) =>
      if suffix.length < name.length && suffix.isSuffixOf name then
        name.take (name.length - suffix.length)
      else name
    let ending := if a.has 'z' then '\x00' else '\n'
    match a.has 'a' || a.has 's', a.operands with
    | false, [path, suffix] => output 0 (unlinesBy ending [cut suffix (fileName path)])
    | false, _ :: _ :: extra :: _ =>
      misuse "basename" 1 s!"extra operand '{Text.ofBytes extra}'"
    | _, paths =>
      output 0 (unlinesBy ending (paths.map fun p => cut ((a.value? 's').getD []) (fileName p)))

/-- The part of a path in front of the last name. -/
def directoryOf (path : Bytes) : Bytes :=
  let inner := path.reverse.dropWhile (· == '/')
  if inner.isEmpty then if path.isEmpty then ['.'] else ['/']
  else if inner.contains '/' then
    let above := ((inner.dropWhile (· != '/')).dropWhile (· == '/')).reverse
    if above.isEmpty then ['/'] else above
  else ['.']

/-- Prints a path without its last part. -/
def directoryName : Tool := fun _ args =>
  let a := arguments "z" "" [("zero", 'z')] args
  checked "dirname" 1 a <| needs "dirname" 1 a <|
    output 0 (unlinesBy (if a.has 'z' then '\x00' else '\n') (a.operands.map directoryOf))

/-- The names where a path leads; its last part need not be there unless `exists` is set, and any
part if `loose` is set. -/
def realNames (fs : Files) (mustExist isLoose : Bool) (path : String) :
    Except SystemFault (List FileName) :=
  match fs.locate path with
  | .ok names => .ok names
  | .error cause =>
    if mustExist || path.isEmpty then .error cause
    else if isLoose then .ok (fs.place path)
    else fs.target path

/-- The path from one directory to another file. -/
def relativePath (start goal : List FileName) : Bytes :=
  let same := ((start.zip goal).takeWhile fun (x, y) => x == y).length
  let up := (start.drop same).map fun _ => ['.', '.']
  let names := up ++ (goal.drop same).map FileName.bytes
  if names.isEmpty then ['.'] else ['/'].intercalate names

/-- Prints the whole paths of files. -/
def wholePath : Tool := fun _ args =>
  let long := [("canonicalize-existing", 'e'), ("canonicalize-missing", 'm'), ("quiet", 'q'),
    ("relative-to", 'R'), ("no-symlinks", 's'), ("strip", 's'), ("zero", 'z')]
  let a := arguments "eEmqsLPz" "R" long args
  checked "realpath" 1 a <| needs "realpath" 1 a do
    let fs ← files
    let base := (a.value? 'R').map fun path => fs.place (Text.ofBytes path)
    a.operands.foldlM (fun status path => do
      let text := Text.ofBytes path
      match if a.has 's' then .ok (fs.place text) else
          realNames fs (a.has 'e') (a.has 'm') text with
      | .ok names =>
        let shown := match base with
          | some start => relativePath start names
          | none => FileName.pathOf names
        output status (shown ++ ['\n'])
      | .error cause =>
        unless a.has 'q' do tell "realpath" s!"{text}: {cause.reason}"
        return 1) 0

/-- Prints the paths that links hold, or the whole paths of files. -/
def linkPath : Tool := fun _ args =>
  let long := [("canonicalize", 'f'), ("canonicalize-existing", 'e'),
    ("canonicalize-missing", 'm'), ("no-newline", 'n'), ("quiet", 'q'), ("verbose", 'v')]
  let a := arguments "femnqsvz" "" long args
  checked "readlink" 1 a <| needs "readlink" 1 a do
    let fs ← files
    let ending := if a.has 'n' && a.operands.length == 1 then [] else ['\n']
    a.operands.foldlM (fun status path => do
      let text := Text.ofBytes path
      let isWhole := a.has 'f' || a.has 'e' || a.has 'm'
      let shown := if isWhole then
          (realNames fs (a.has 'e') (a.has 'm') text).toOption.map FileName.pathOf
        else match fs.findEntry text with
          | .ok (.link goal) => some (Text.bytes goal.shown)
          | _ => none
      match shown with
      | some bs => output status (bs ++ ending)
      | none => return 1) 0

end UseCase.Shell.Tool
