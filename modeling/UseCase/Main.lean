import UseCase.CommandLine.Program

/-!
# The command

The outermost layer: it collects from the system what a call needs, runs the program on it, carries
out what happened, and writes the state file if it has changed. Nothing is decided here.
-/

namespace UseCase.CommandLine

/-- The names of the variables that matter, and of those that commands are likely to use. -/
def variableNames : List String :=
  ["UCM_CONFIG_DIR", "XDG_CONFIG_HOME", "HOME", "PATH", "USER", "LANG", "TMPDIR"]

/-- The environment of the process. -/
def environment : IO Environment :=
  variableNames.filterMapM fun name => do
    return (← IO.getEnv name).map fun value => (name, value)

/-- The standard input, as a whole. -/
def readInput : IO Text.Bytes := do
  let input ← IO.getStdin
  let mut bs := []
  repeat
    let block ← input.read 4096
    if block.isEmpty then break
    bs := bs ++ Text.bytesOf block
  return bs

/-- Adds those directories above a path that exist. -/
def collectAbove (path : String) (fs : Files) : IO Files := do
  let segments := Path.segments path
  let mut fs := fs
  for count in List.range segments.length do
    let above := "/".intercalate (segments.take count)
    let onDisk := (← IO.currentDir) / above
    if !above.isEmpty && !fs.contains above && (← onDisk.isDir) then fs := fs.plant above none
  return fs

/-- Adds the file at a path, or the directory with its entries down to some depth. What is neither
counts as a device that is empty, since there may be no end of what is read from it. -/
def collectAt : (depth : Nat) → (path : String) → Files → IO Files
  | depth, path, fs => do
    let onDisk := (← IO.currentDir) / path
    if ← onDisk.isDir then
      let fs := if fs.contains path then fs else fs.plant path none
      match depth with
      | 0 => return fs
      | depth + 1 =>
        (← onDisk.readDir).toList.foldlM
          (fun fs e => collectAt depth (Path.join path e.fileName) fs) fs
    else if !(← onDisk.pathExists) then return fs
    else if (← onDisk.metadata).type == .file then
      return fs.plant path (some (.ofBytes (Text.bytesOf (← IO.FS.readBinFile onDisk))))
    else return fs.set (fs.place path) (some (.device .null 0o666))

/-- Adds what lies at a path and above it. -/
def collect (depth : Nat) (path : String) (fs : Files) : IO Files := do
  if path.isEmpty then return fs else collectAt depth path (← collectAbove path fs)

/-- The files that a call may read. -/
def filesFor (c : Catalog) (i : Invocation) : IO Files := do
  let working := (Path.parts (← IO.currentDir).toString).map .text
  let fs ← collect 2 c.root (.empty working)
  let fs ← collect 0 (i.stateFile.getD "") fs
  let fs ← if i.executes then collect 1 "." fs else pure fs
  match i.task with
  | .batch file => if file = "-" then return fs else collect 0 file fs
  | _ => return fs

/-- The path of the file at the end of a list of names. -/
def pathOf (names : List FileName) : String :=
  Text.ofBytes (FileName.pathOf names)

/-- Writes the files of the system that have changed, and removes those that are gone. -/
def save (before after : Files) : IO Unit := do
  (after.beyond before).forM fun (names, content) => do
    IO.FS.createDirAll (pathOf names.dropLast)
    IO.FS.writeBinFile (pathOf names) (Text.arrayOf content.bytes)
  before.contents.forM fun (names, _) => do
    if (after.at? names).isNone then IO.FS.removeFile (pathOf names)

/-- Lets an event happen. -/
def perform : Event → IO Unit
  | .print text => IO.print text
  | .complain text => IO.eprint text
  | .wait nanoseconds => IO.sleep (nanoseconds / 1000000).toUInt32

/-- Carries out a finished run and tells its failure. -/
def conclude (c : Completion) : IO UInt32 := do
  c.events.forM perform
  match c.ending with
  | .done => pure ()
  | .misused => IO.eprintln "Usage: ucm [OPTIONS] <COMMAND>"
  | .failed report => IO.eprint report.text
  return c.ending.status.toUInt32

/-- The surroundings of a call. -/
def hostFor (env : Environment) (i : Invocation) : IO Host := do
  let files ← match Program.catalog env i with
    | .ok c => filesFor c i
    | .error _ => pure (.empty [])
  let isAsked := i.executes && !(← (← IO.getStdin).isTty)
  let input ← if isAsked || i.task = .batch "-" then readInput else pure []
  return ⟨files, input, env, []⟩

/-- Runs the program on the system. -/
def start (args : List String) : IO UInt32 := do
  let env ← environment
  let host ← match Invocation.ofArguments? args with
    | none => pure (.ofFiles (.empty []))
    | some i => hostFor env i
  let completion := Program.run args host
  save host.files completion.host.files
  conclude completion

end UseCase.CommandLine

/-- The program. -/
def main (args : List String) : IO UInt32 :=
  UseCase.CommandLine.start args
