import UseCase.Files
import UseCase.Shell.Script

/-!
# What shells share

The files, the standard input, what was printed so far, and the open streams, which several commands
may use one after the other: a stream goes on where the last one left it. Pipes hold everything that
was written to them, because the command in front of a bar is run to its end first.
-/

namespace UseCase.Shell

open Text (Bytes)

/-- Where a stream leads. -/
inductive Target where
  | input
  | printed
  | complaints
  | nowhere
  | file (names : List FileName)
  | pipe (number : Nat)
  deriving DecidableEq, Repr

/-- An open stream. -/
structure Stream where
  target : Target
  position : Nat
  /-- Whether writing goes on at the end. -/
  appends : Bool
  reads : Bool
  writes : Bool
  deriving DecidableEq, Repr

/-- What all shells of a command line share. -/
structure World where
  files : Files
  /-- The rest of the standard input. -/
  input : Bytes
  /-- What was printed, the latest first. -/
  printed : List Bytes
  /-- What was told of failures, the latest first. -/
  complaints : List Bytes
  pipes : Array Bytes
  streams : Array Stream
  /-- The signals that wait to be acted on, each with the number of its process. -/
  arrived : List (Nat × Nat)

namespace World

/-- The bytes of the file or device at the end of a list of names. -/
def fileBytes (w : World) (names : List FileName) : Bytes :=
  match (w.files.at? names).map FileTree.reading with
  | some (.ok content) => content.bytes
  | _ => []

/-- Whether a stream leads to a directory, which has no bytes to read. -/
def isDirectory (w : World) (s : Stream) : Bool :=
  match s.target with
  | .file names =>
    ((w.files.at? names).map FileTree.isDirectory).getD false
  | _ => false

/-- The bytes that a stream has to come. -/
def rest (w : World) (s : Stream) : Bytes :=
  match s.target with
  | .input => w.input
  | .file names => (w.fileBytes names).drop s.position
  | .pipe number => (w.pipes.getD number []).drop s.position
  | .printed | .complaints | .nowhere => []

/-- The world after a stream has moved on by some bytes. -/
def advance (w : World) (index count : Nat) : World :=
  match w.streams[index]? with
  | none => w
  | some s =>
    match s.target with
    | .input => { w with input := w.input.drop count }
    | _ =>
      let s := { s with position := s.position + count }
      { w with streams := w.streams.setIfInBounds index s }

/-- Bytes with others at a position, in place of those that were there. -/
def overwrite (old : Bytes) (position : Nat) (new : Bytes) : Bytes :=
  old.take position ++ List.replicate (position - old.length) '\x00' ++ new ++
    old.drop (position + new.length)

/-- The world after bytes were written to a stream. -/
def write (w : World) (index : Nat) (bs : Bytes) : World :=
  match w.streams[index]? with
  | none => w
  | some s =>
    match s.target with
    | .printed => { w with printed := bs :: w.printed }
    | .complaints => { w with complaints := bs :: w.complaints }
    | .pipe number => { w with pipes := w.pipes.modify number (· ++ bs) }
    | .file names =>
      match w.files.at? names with
      | some (.file content _) =>
        let old := content.bytes
        let position := if s.appends then old.length else s.position
        let new := Content.ofBytes (overwrite old position bs)
        let s := { s with position := position + bs.length }
        { w with
          files := w.files.put names new
          streams := w.streams.setIfInBounds index s }
      | _ => w
    | .input | .nowhere => w

/-- The world with one more stream, and its number. -/
def openStream (w : World) (s : Stream) : Nat × World :=
  (w.streams.size, { w with streams := w.streams.push s })

/-- The world with a pipe, and the numbers of its ends for reading and writing. -/
def openPipe (w : World) : (Nat × Nat) × World :=
  let target := Target.pipe w.pipes.size
  let n := w.streams.size
  let streams := (w.streams.push ⟨target, 0, false, true, false⟩).push
    ⟨target, 0, true, false, true⟩
  ((n, n + 1), { w with pipes := w.pipes.push [], streams := streams })

/-- The stream of a file that is opened; `mode` is for a new one. -/
def openFile (w : World) (mode : Nat) (access : Access) (path : String) :
    Except SystemFault (Stream × World) :=
  if path = "/dev/null" then
    .ok (⟨.nowhere, 0, false, true, true⟩, w)
  else match access with
    | .read => do
      let names ← w.files.locate path
      match w.files.at? names with
      | none => throw .missing
      | some (.device d _) => let _ ← d.reading
      | some _ => pure ()
      return (⟨.file names, 0, false, true, false⟩, w)
    | _ => do
      let names ← w.files.target path
      w.files.accepts names
      let keeps := access == .append || access == .both
      let files :=
        if keeps && (w.files.at? names).isSome then w.files
        else w.files.putWith mode names (.text "")
      return (⟨.file names, 0, access == .append, access == .both, true⟩,
        { w with files := files })

end World

end UseCase.Shell
