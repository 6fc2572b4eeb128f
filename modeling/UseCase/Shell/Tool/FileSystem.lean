import UseCase.Shell.Field
import UseCase.Shell.Tool
import UseCase.Shell.Tool.Lines

/-!
# Tools that change files and directories

Tools that create, copy, move, link and remove files, and change their permissions. A failure with one
file does not keep them from going on with the next one; it shows in their status.
-/

namespace UseCase.Shell.Tool

open Text (Bytes)

/-- A change of the files, with the lines that tell about it, or else a complaint. -/
abbrev FileChange := EStateM String Files (List String)

/-- Changes the files. -/
def setFiles (fs : Files) : Eval Unit :=
  Eval.changeWorld fun w => { w with files := fs }

/-- The files. -/
def files : Eval Files := do
  return (← Eval.world).files

/-- The result, or a complaint in some wording. -/
def orSay {α : Type} (wording : SystemFault → String) : Except SystemFault α →
    EStateM String Files α
  | .ok a => return a
  | .error cause => throw (wording cause)

/-- The wording for something that is refused. -/
def refusal (what path : String) (cause : SystemFault) : String :=
  s!"{what} '{path}': {cause.reason}"

/-- Does something with each of some paths, tells of those with which it fails, and prints the lines
about the others on demand. -/
def withEach (tool : String) (a : Arguments) (paths : List Bytes) (x : String → FileChange) :
    Eval Nat :=
  paths.foldlM (fun status path => do
    match x (Text.ofBytes path) (← files) with
    | .ok ls fs =>
      setFiles fs
      output status (if a.has 'v' then ls.flatMap fun l => Text.bytes l ++ ['\n'] else [])
    | .error text fs =>
      setFiles fs
      tell tool text
      return 1) 0

/-- Refuses a call without enough operands. -/
def needs (tool : String) (count : Nat) (a : Arguments) (x : Eval Nat) : Eval Nat := do
  let isForFiles := ["cp", "mv", "ln", "touch"].contains tool
  if count ≤ a.operands.length then x
  else misuse tool 1 (match a.operands, isForFiles with
    | [], true => "missing file operand"
    | [], false => "missing operand"
    | path :: _, true => s!"missing destination file operand after '{Text.ofBytes path}'"
    | path :: _, false => s!"missing operand after '{Text.ofBytes path}'")

/-- The names of an entry that may have to be created at the end of a path. -/
def slot (fs : Files) (path : String) : Except SystemFault (List FileName) := do
  Files.checkPath path
  if path.isEmpty then throw .missing
  match fs.locateEntry path with
  | .ok names => return names
  | .error _ =>
    let segments := Files.significant path
    let name := segments.getLast?.getD ""
    let above ← fs.follow (fs.start path) (segments.dropLast.map .text)
    match fs.at? above with
    | some (.directory _ _) =>
      if Path.isTooLongName name then throw .nameTooLong
      return above ++ [.text name]
    | _ => throw .notDirectory

/-! ### Permissions -/

/-- The permissions that a text in octal or symbolic form gives to a file that has some already. -/
def modeFrom? (mask : Nat) (isDirectory : Bool) (old : Nat) (text : Bytes) : Option Nat :=
  if text.all fun c => (Text.radixDigit? 8 c).isSome then
    match Text.radixFrom? 8 0 text with
    | some n => if text.isEmpty || 0o7777 < n then none else some n
    | none => none
  else
    let given := if isDirectory then old ||| 0o10000 else old
    (Permission.changeWith? "rwxXstugo".toList (Permission.without mask 0o7777) given text).map
      (· % 0o10000)

/-- The permissions in the letters of a listing. -/
def modeLetters (mode : Nat) : String :=
  let three := fun (bits : Nat) (special : Bool) (letter : Char) =>
    [if bits / 4 % 2 = 1 then 'r' else '-', if bits / 2 % 2 = 1 then 'w' else '-',
      if special then if bits % 2 = 1 then letter else letter.toUpper
      else if bits % 2 = 1 then 'x' else '-']
  String.ofList (three (mode / 64) (mode / 2048 % 2 == 1) 's' ++
    three (mode / 8) (mode / 1024 % 2 == 1) 's' ++ three mode (mode / 512 % 2 == 1) 't')

/-- The permissions of a file in octal and in letters. -/
def shownMode (mode : Nat) : String :=
  s!"{Text.padded 4 (Nat.toDigits 8 mode)} ({modeLetters mode})"

mutual

/-- A file with other permissions, and all files in it. -/
def changedBelow (f : Bool → Nat → Nat) : FileTree → FileTree
  | .file content mode => .file content (f false mode)
  | .directory entries mode => .directory (changedEntries f entries) (f true mode)
  | .link path => .link path
  | .device d mode => .device d (f false mode)

/-- Entries with other permissions, and all files in them. -/
def changedEntries (f : Bool → Nat → Nat) :
    List (FileName × FileTree) → List (FileName × FileTree)
  | [] => []
  | (name, t) :: rest => (name, changedBelow f t) :: changedEntries f rest

end

/-- Changes the permissions of files. -/
def changeMode : Tool := fun _ args => do
  let isMode := fun (arg : Bytes) => match arg with
    | '-' :: c :: _ => "rwxXst".toList.contains c
    | _ => false
  let modes := args.filter isMode
  let long := [("recursive", 'R'), ("verbose", 'v'), ("changes", 'c'), ("quiet", 'f'),
    ("silent", 'f')]
  let a := arguments "Rvcf" "" long (args.filter (!isMode ·))
  let a := { a with operands := modes ++ a.operands }
  checked "chmod" 1 a <| needs "chmod" 2 a do
    let text := a.operands.headD []
    let mask := (← Eval.self).mask
    if (modeFrom? mask false 0 text).isNone then
      return ← misuse "chmod" 1 s!"invalid mode: '{Text.ofBytes text}'"
    let change := fun (isDirectory : Bool) (old : Nat) =>
      (modeFrom? mask isDirectory old text).getD old
    withEach "chmod" { a with options := ('v', []) :: a.options } (a.operands.drop 1) fun path => do
      let fs ← get
      let names ← orSay (refusal "cannot access" path) (fs.locate path)
      match fs.at? names with
      | none => return []
      | some t =>
        let new := change t.isDirectory t.mode
        set (fs.set names (some (if a.has 'R' then changedBelow change t else t.withMode new)))
        let line := if new = t.mode then s!"mode of '{path}' retained as {shownMode t.mode}"
          else s!"mode of '{path}' changed from {shownMode t.mode} to {shownMode new}"
        return if a.has 'v' || (a.has 'c' && new != t.mode) then [line] else []

/-! ### Creation and removal -/

/-- The paths of a path's segments, from the first one on. -/
def pathPrefixes (path : String) : List String :=
  let segments := Path.segments path
  (List.range segments.length).filterMap fun i =>
    if Path.isIdle ((segments[i]?).getD "") then none
    else some ("/".intercalate (segments.take (i + 1)))

/-- Creates a directory that may not be there yet. -/
def createDirectory (mode : Nat) (path : String) : FileChange := do
  let say := refusal "cannot create directory" path
  let fs ← get
  let names ← orSay say (slot fs path)
  if (fs.at? names).isSome then throw (say .alreadyExists)
  set (fs.set names (some (.directory [] mode)))
  return [s!"mkdir: created directory '{path}'"]

/-- Creates directories. -/
def makeDirectory : Tool := fun _ args =>
  let a := arguments "pv" "m" [("parents", 'p'), ("verbose", 'v'), ("mode", 'm')] args
  checked "mkdir" 1 a <| needs "mkdir" 1 a do
    let mask := (← Eval.self).mask
    let usual := Permission.forDirectory mask
    let mode? := match a.value? 'm' with
      | some text => modeFrom? mask true Permission.all text
      | none => some usual
    match mode? with
    | none =>
      let given := Text.ofBytes ((a.value? 'm').getD [])
      tell "mkdir" s!"invalid mode '{given}'"
      return 1
    | some mode =>
      withEach "mkdir" a a.operands fun path => do
        if a.has 'p' then
          let paths := pathPrefixes path
          let made ← paths.zipIdx.mapM fun (above, i) => do
            match (← get).find above with
            | .ok t =>
              if t.isDirectory then return []
              let cause := if i + 1 = paths.length then SystemFault.alreadyExists else .notDirectory
              throw (refusal "cannot create directory" above cause)
            | .error _ => createDirectory (if i + 1 = paths.length then mode else usual) above
          return made.flatten
        else createDirectory mode path

/-- Removes an empty directory. -/
def removeEmpty (what path : String) : FileChange := do
  let fs ← get
  let names ← orSay (refusal what path) (fs.locateEntry path)
  match fs.at? names with
  | some (.directory [] _) =>
    set (fs.set names none)
    return [s!"rmdir: removing directory, '{path}'"]
  | some (.directory _ _) => throw (refusal what path .notEmpty)
  | _ => throw (refusal what path .notDirectory)

/-- Removes empty directories. -/
def removeDirectory : Tool := fun _ args =>
  let long := [("parents", 'p'), ("verbose", 'v'), ("ignore-fail-on-non-empty", 'i')]
  let a := arguments "pv" "" long args
  checked "rmdir" 1 a <| needs "rmdir" 1 a <|
    withEach "rmdir" a a.operands fun path => do
      let first ← removeEmpty "failed to remove" path
      if a.has 'p' then
        let above := (pathPrefixes path).dropLast.reverse
        return first ++ (← above.mapM (removeEmpty "failed to remove directory")).flatten
      return first

mutual

/-- The lines about a file and all files in it that are removed. -/
def removedLines (path : String) : FileTree → List String
  | .directory entries _ => removedEntries path entries ++ [s!"removed directory '{path}'"]
  | .file _ _ | .link _ | .device _ _ => [s!"removed '{path}'"]

/-- The lines about entries that are removed. -/
def removedEntries (path : String) : List (FileName × FileTree) → List String
  | [] => []
  | (name, t) :: rest => removedLines (path ++ "/" ++ name.shown) t ++ removedEntries path rest

end

/-- Removes files, and directories if it is asked to. -/
def remove : Tool := fun _ args =>
  let long := [("recursive", 'r'), ("force", 'f'), ("dir", 'd'), ("verbose", 'v')]
  let a := arguments "rRfdivI" "" long args
  let isDeep := a.has 'r' || a.has 'R'
  checked "rm" 1 a <|
    if a.has 'f' && a.operands.isEmpty then return 0
    else needs "rm" 1 a <| withEach "rm" a a.operands fun path => do
      let fs ← get
      let say := refusal "cannot remove" path
      let name := (Files.significant path).getLast?.getD ""
      if isDeep && (name == "." || name == "..") then
        throw s!"refusing to remove '.' or '..' directory: skipping '{path}'"
      match fs.locateEntry path with
      | .error .missing =>
        unless a.has 'f' do throw (say .missing)
        return []
      | .error cause => throw (say cause)
      | .ok names =>
        match fs.at? names with
        | some (.directory entries mode) =>
          if !isDeep then
            if !a.has 'd' then throw (say .isDirectory)
            if !entries.isEmpty then throw (say .notEmpty)
          set (fs.set names none)
          return removedLines path (.directory entries mode)
        | _ =>
          set (fs.set names none)
          return [s!"removed '{path}'"]

/-- Removes a file. -/
def unlinkFile : Tool := fun _ args =>
  let a := arguments "" "" [] args
  checked "unlink" 1 a <| needs "unlink" 1 a <|
    withEach "unlink" a (a.operands.take 1) fun path => do
      let fs ← get
      let names ← orSay (refusal "cannot unlink" path) (fs.locateEntry path)
      if ((fs.at? names).map FileTree.isDirectory).getD false then
        throw (refusal "cannot unlink" path .isDirectory)
      set (fs.set names none)
      return []

/-- Creates files that are missing. -/
def touch : Tool := fun _ args =>
  let a := arguments "acmfh" "drt" [("no-create", 'c'), ("date", 'd'), ("reference", 'r')] args
  checked "touch" 1 a <| needs "touch" 1 a do
    let mode := Permission.forFile (← Eval.self).mask
    withEach "touch" a a.operands fun path => do
      let fs ← get
      let say := refusal "cannot touch" path
      match fs.locate path with
      | .ok _ => return []
      | .error .missing =>
        unless a.has 'c' do
          set (fs.putWith mode (← orSay say (fs.target path)) (.text ""))
        return []
      | .error cause => throw (say cause)

/-! ### Copies -/

/-- Directories with the entries of others added, at most `depth` deep. Files that were there keep
their permissions unless `keeps` is set. -/
def merge (keeps : Bool) : (depth : Nat) → (old new : FileTree) → FileTree
  | depth + 1, .directory old mode, .directory new _ =>
    .directory (new.foldl (fun entries (name, t) =>
      let t := match FileTree.child? name entries with
        | some o => merge keeps depth o t
        | none => t
      FileTree.setEntry name (some t) entries) old) mode
  | _, .file _ old, .file content new => .file content (if keeps then new else old)
  | _, .device d mode, _ => .device d mode
  | _, _, new => new

/-- The path of a file that is put at a path: in it if it is a directory. -/
def destination (fs : Files) (a : Arguments) (source path : String) : String :=
  if fs.isDirectory path && !a.has 'T' then
    Text.ofBytes (joinPath (Text.bytes path) (fileName (Text.bytes source)))
  else path

mutual

/-- The lines about a file and all files in it that are copied. -/
def copiedLines (source path : String) : FileTree → List String
  | .directory entries _ => s!"'{source}' -> '{path}'" :: copiedEntries source path entries
  | .file _ _ | .link _ | .device _ _ => [s!"'{source}' -> '{path}'"]

/-- The lines about entries that are copied. -/
def copiedEntries (source path : String) : List (FileName × FileTree) → List String
  | [] => []
  | (name, t) :: rest =>
    copiedLines (source ++ "/" ++ name.shown) (path ++ "/" ++ name.shown) t ++
      copiedEntries source path rest

end

/-- Refuses to put a file in place of a directory, or the other way round. -/
def checkKinds (source path : String) (new : FileTree) : Option FileTree → EStateM String Files Unit
  | none => return ()
  | some old => do
    if old.isDirectory && !new.isDirectory then
      throw s!"cannot overwrite directory '{path}' with non-directory"
    if new.isDirectory && !old.isDirectory then
      throw s!"cannot overwrite non-directory '{path}' with directory '{source}'"

/-- What a copy is made of: the content of a device, unless devices are copied as such. -/
def copied (keepsDevices : Bool) (source : String) : FileTree → EStateM String Files FileTree
  | .device d mode => do
    if keepsDevices then return .device d mode
    return .file (← orSay (refusal "error reading" source) d.reading) mode
  | t => return t

/-- Copies a file or, on demand, a directory. -/
def copyOne (mask : Nat) (a : Arguments) (source given : String) : FileChange := do
  let isDeep := a.has 'r' || a.has 'R' || a.has 'a'
  let keepsLinks := (isDeep || a.has 'P' || a.has 'd') && !a.has 'L'
  let keeps := a.has 'p' || a.has 'a'
  let fs ← get
  let old ← orSay (refusal "cannot stat" source)
    (if keepsLinks then fs.locateEntry source else fs.locate source)
  match fs.at? old with
  | none => throw (refusal "cannot stat" source .missing)
  | some t =>
    let t ← copied isDeep source t
    if t.isDirectory && !isDeep then
      throw s!"-r not specified; omitting directory '{source}'"
    let path := destination fs a source given
    let what := if t.isDirectory then "cannot create directory" else "cannot create regular file"
    if path.endsWith "/" && !t.isDirectory then throw (refusal what path .notDirectory)
    let new ← orSay (refusal what path) (match fs.locate path with
      | .ok names => .ok names
      | .error _ => slot fs path)
    if old = new then throw s!"'{source}' and '{path}' are the same file"
    if old.isPrefixOf new then
      throw s!"cannot copy a directory, '{source}', into itself, '{path}'"
    if let some (.link _) := fs.at? new then
      throw s!"not writing through dangling symlink '{path}'"
    if a.has 'n' && (fs.at? new).isSome then return []
    checkKinds source path t (fs.at? new)
    let copy := if keeps then t else changedBelow (fun _ mode => Permission.without mask mode) t
    let result := match fs.at? new with
      | some o => merge keeps 100 o copy
      | none => copy
    set (fs.set new (some result))
    return copiedLines source path t

/-- Moves a file or directory. -/
def moveOne (a : Arguments) (source given : String) : FileChange := do
  let fs ← get
  let old ← orSay (refusal "cannot stat" source) (fs.locateEntry source)
  match fs.at? old with
  | none => throw (refusal "cannot stat" source .missing)
  | some t =>
    let path := destination fs a source given
    let say := fun (cause : SystemFault) => s!"cannot move '{source}' to '{path}': {cause.reason}"
    if path.endsWith "/" && !t.isDirectory then throw (say .notDirectory)
    let new ← orSay say (slot fs path)
    if old = new then throw s!"'{source}' and '{path}' are the same file"
    if old.isPrefixOf new then
      throw s!"cannot move '{source}' to a subdirectory of itself, '{path}'"
    if a.has 'n' && (fs.at? new).isSome then return []
    checkKinds source path t (fs.at? new)
    if let some (.directory (_ :: _) _) := fs.at? new then throw (say .notEmpty)
    set ((fs.set new (some t)).set old none)
    return [s!"renamed '{source}' -> '{path}'"]

/-- Links a file to a path. A link that is not symbolic gets a copy of the file. -/
def linkOne (a : Arguments) (source given : String) : FileChange := do
  let fs ← get
  let isSymbolic := a.has 's'
  let kind := if isSymbolic then "symbolic" else "hard"
  let entry ← if isSymbolic then pure (.link source) else do
    let t ← orSay (refusal "failed to access" source) (fs.findEntry source)
    if t.isDirectory then throw s!"{source}: hard link not allowed for directory"
    pure t
  let intoLink := match fs.findEntry given with
    | .ok (.link _) => a.has 'n'
    | _ => false
  let path := if intoLink then given else destination fs a source given
  let say := refusal s!"failed to create {kind} link" path
  let new ← orSay say (slot fs path)
  match fs.at? new with
  | some t =>
    if !a.has 'f' then throw (say .alreadyExists)
    if t.isDirectory then throw s!"{path}: cannot overwrite directory"
  | none => pure ()
  set (fs.set new (some entry))
  return [if isSymbolic then s!"'{path}' -> '{source}'" else s!"'{path}' => '{source}'"]

/-- Transfers all operands but the last one to the last one, or all of them to a directory. -/
def transferAll (tool : String) (a : Arguments) (one : (source path : String) → FileChange) :
    Eval Nat := do
  let into := a.value? 't'
  let sources := if into.isSome then a.operands else a.operands.dropLast
  match into.or a.operands.getLast? with
  | none => return 1
  | some path =>
    let text := Text.ofBytes path
    if 1 < sources.length || into.isSome then
      match (← files).find text with
      | .error cause =>
        tell tool s!"target '{text}': {cause.reason}"
        return 1
      | .ok t =>
        if !t.isDirectory then
          tell tool s!"target '{text}': Not a directory"
          return 1
    withEach tool a sources fun source => one source text

/-- Copies files. -/
def copy : Tool := fun _ args =>
  let long := [("recursive", 'r'), ("archive", 'a'), ("force", 'f'), ("verbose", 'v'),
    ("no-clobber", 'n'), ("no-dereference", 'P'), ("dereference", 'L'), ("target-directory", 't'),
    ("no-target-directory", 'T'), ("update", 'u'), ("preserve", 'p'), ("interactive", 'i')]
  let a := arguments "rRafpLPHnvuTdi" "t" long args
  checked "cp" 1 a <| needs "cp" (if (a.value? 't').isSome then 1 else 2) a do
    transferAll "cp" a (copyOne (← Eval.self).mask a)

/-- Moves files. -/
def move : Tool := fun _ args =>
  let long := [("force", 'f'), ("interactive", 'i'), ("no-clobber", 'n'), ("verbose", 'v'),
    ("target-directory", 't'), ("no-target-directory", 'T'), ("update", 'u')]
  let a := arguments "finvuT" "t" long args
  checked "mv" 1 a <| needs "mv" (if (a.value? 't').isSome then 1 else 2) a <|
    transferAll "mv" a (moveOne a)

/-- Links files. -/
def link : Tool := fun _ args =>
  let long := [("symbolic", 's'), ("force", 'f'), ("verbose", 'v'), ("no-dereference", 'n'),
    ("target-directory", 't'), ("no-target-directory", 'T')]
  let a := arguments "sfnvrTiLP" "t" long args
  checked "ln" 1 a <| needs "ln" 1 a <|
    match a.operands, a.value? 't' with
    | [_], none => transferAll "ln" { a with operands := a.operands ++ [['.']] } (linkOne a)
    | _, _ => transferAll "ln" a (linkOne a)

/-- Cuts files to a size, or fills them up to it. -/
def truncate : Tool := fun _ args =>
  let a := arguments "co" "sr" [("size", 's'), ("no-create", 'c'), ("reference", 'r')] args
  checked "truncate" 1 a do
    match a.value? 's' with
    | none => misuse "truncate" 1 "you must specify either '--size' or '--reference'"
    | some text =>
      match count? text with
      | none =>
        tell "truncate" s!"Invalid number: '{Text.ofBytes text}'"
        return 1
      | some (sign, n) =>
        let mode := Permission.forFile (← Eval.self).mask
        needs "truncate" 1 a <| withEach "truncate" a a.operands fun path => do
          let fs ← get
          let names ← orSay (fun cause => s!"cannot open '{path}' for writing: {cause.reason}")
            (fs.target path)
          let old := match fs.at? names with
            | some (.file content _) => content.bytes
            | _ => []
          if a.has 'c' && (fs.at? names).isNone then return []
          let size := match sign with
            | some '+' => old.length + n
            | some _ => old.length - n
            | none => n
          let new := old.take size ++ List.replicate (size - old.length) '\x00'
          set (fs.putWith mode names (.ofBytes new))
          return []

end UseCase.Shell.Tool
