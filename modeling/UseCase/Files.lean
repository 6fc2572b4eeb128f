import UseCase.Fault
import UseCase.Files.Name

/-!
# Files

The files of a system and the directory in which a program works. A path leads segment by segment
through directories that exist, from the root of the file system if it is absolute and else from the
working directory. A link stands for the path that it holds, unless it is looked at itself. A
directory lists its entries in no particular order, each name once.

Some entries are neither files nor directories nor links: devices, and other things that can be
opened and do not keep what is written to them.
-/

namespace UseCase

/-- What a file holds. -/
inductive Content where
  | text (content : String)
  /-- Bytes that are no text. -/
  | binary (content : Text.Bytes)
  deriving DecidableEq, Repr

namespace Content

/-- What bytes hold. -/
def ofBytes (bs : Text.Bytes) : Content :=
  match Text.ofBytes? bs with
  | some content => text content
  | none => binary bs

/-- The bytes of a file. -/
def bytes : Content → Text.Bytes
  | text content => Text.bytes content
  | binary content => content

end Content

/-- What answers in the place of a file that can be read and written but is none. -/
structure Device where
  /-- What is read from it. -/
  reading : Except SystemFault Content
  /-- Whether it takes what is written. -/
  writing : Except SystemFault Unit

/-- The device that is empty and drops whatever is written. -/
def Device.null : Device := ⟨.ok (.text ""), .ok ()⟩

/-- A file, a directory or a device with its permissions, or a link with its path. -/
inductive FileTree where
  | file (content : Content) (mode : Nat)
  | directory (entries : List (FileName × FileTree)) (mode : Nat)
  | link (path : FilePath)
  | device (device : Device) (mode : Nat)

/-- The files of a system. -/
structure Files where
  /-- The entries of the root directory. -/
  entries : List (FileName × FileTree)
  /-- The names that lead from the root to the working directory. -/
  working : List FileName

namespace FileTree

/-- The permissions of files about which nothing is said: all may read them, the owner may write. -/
def plainMode : Nat := 0o644

/-- The permissions of directories about which nothing is said. -/
def openMode : Nat := 0o755

/-- The entry with a name. -/
def child? (name : FileName) (entries : List (FileName × FileTree)) : Option FileTree :=
  (entries.find? fun (n, _) => n == name).map Prod.snd

/-- What lies at the end of a list of names. -/
def at? : List FileName → FileTree → Option FileTree
  | [], t => some t
  | name :: names, .directory entries _ => (child? name entries).bind (at? names)
  | _ :: _, .file _ _ | _ :: _, .link _ | _ :: _, .device _ _ => none

/-- The entries after the one with a name was replaced or added, or removed if nothing is given. -/
def setEntry (name : FileName) (new : Option FileTree) :
    List (FileName × FileTree) → List (FileName × FileTree)
  | [] => (new.map fun t => (name, t)).toList
  | (n, t) :: rest =>
    if n = name then (new.map fun t => (n, t)).toList ++ rest else (n, t) :: setEntry name new rest

/-- The entries of a directory, none for anything else. -/
def children : FileTree → List (FileName × FileTree)
  | directory entries _ => entries
  | file _ _ | link _ | device _ _ => []

/-- The permissions; those of a link allow everything. -/
def mode : FileTree → Nat
  | file _ mode | directory _ mode | device _ mode => mode
  | link _ => 0o777

/-- The same with other permissions. -/
def withMode (mode : Nat) : FileTree → FileTree
  | file content _ => file content mode
  | directory entries _ => directory entries mode
  | link path => link path
  | device d _ => device d mode

/-- Whether it is a directory. -/
def isDirectory : FileTree → Bool
  | directory _ _ => true
  | file _ _ | link _ | device _ _ => false

/-- What is read from it. -/
def reading : FileTree → Except SystemFault Content
  | file content _ => .ok content
  | device d _ => d.reading
  | directory _ _ => .error .isDirectory
  | link _ => .error .missing

/-- Whether it takes what is written in its place. -/
def writing : FileTree → Except SystemFault Unit
  | file _ _ => .ok ()
  | device d _ => d.writing
  | directory _ _ => .error .isDirectory
  | link _ => .error .missing

/-- The entries after what lies at the end of a list of names was replaced, added or removed. -/
def setAt (new : Option FileTree) :
    List FileName → List (FileName × FileTree) → List (FileName × FileTree)
  | [], entries => entries
  | [name], entries => setEntry name new entries
  | name :: names, entries =>
    let old := (child? name entries).getD (.directory [] openMode)
    setEntry name (some (.directory (setAt new names old.children) old.mode)) entries

mutual

/-- The files at and below `here`, with the names that lead to them from the root. -/
def leaves (here : List FileName) : FileTree → List (List FileName × Content)
  | .file content _ => [(here, content)]
  | .directory entries _ => leavesOf here entries
  | .link _ | .device _ _ => []

/-- The files among some entries of the directory `here` and below them. -/
def leavesOf (here : List FileName) :
    List (FileName × FileTree) → List (List FileName × Content)
  | [] => []
  | (name, t) :: rest => leaves (here ++ [name]) t ++ leavesOf here rest

end

end FileTree

namespace Files

/-- Nothing but a working directory without entries. -/
def empty (working : List FileName) : Files :=
  ⟨FileTree.setAt (some (.directory [] FileTree.openMode)) working [], working⟩

/-- What lies at the end of a list of names. -/
def at? (fs : Files) (names : List FileName) : Option FileTree :=
  (FileTree.directory fs.entries FileTree.openMode).at? names

/-- A way to follow segments from a directory; the result is a list of names. -/
abbrev Walk :=
  (here : List FileName) → (segments : List FileName) → Except SystemFault (List FileName)

/-- The directory where a path starts that a link in the directory `here` holds. -/
def startOf (here : List FileName) (path : FilePath) : List FileName :=
  if path.isAbsolute then [] else here

/-- The entries of a directory. -/
def entriesAt (fs : Files) (here : List FileName) :
    Except SystemFault (List (FileName × FileTree)) :=
  match fs.at? here with
  | some (.directory entries _) => .ok entries
  | _ => .error .notDirectory

/-- Where a segment leads. -/
inductive Lead where
  | place (names : List FileName)
  /-- To a link, which holds a path. -/
  | link (path : FilePath)
  /-- To an entry that the directory does not have. -/
  | nowhere

/-- Where the entry for a name leads; `next` are the names that lead to it from the root. -/
def Lead.ofEntry (next : List FileName) : Option FileTree → Lead
  | none => nowhere
  | some (.link path) => link path
  | some (.file _ _) | some (.directory _ _) | some (.device _ _) => place next

/-- Where a segment leads from the directory `here`. -/
def step (fs : Files) (here : List FileName) (segment : FileName) : Except SystemFault Lead := do
  let entries ← fs.entriesAt here
  if segment.isIdle then .ok (.place here)
  else if segment = ".." then .ok (.place here.dropLast)
  else if segment.isTooLong then .error .nameTooLong
  else .ok (.ofEntry (here ++ [segment]) (FileTree.child? segment entries))

/-- Follows the last name of a path to a file that may have to be created; `along` follows the path
of a link. A path that ends in slashes or in dots names no file. -/
def aim (fs : Files) (along : Walk) (here : List FileName) (name : FileName)
    (slashes : List FileName) : Except SystemFault (List FileName) := do
  let _ ← fs.entriesAt here
  if !slashes.isEmpty || name.isIdle || name == ".." then .error .isDirectory
  else match ← fs.step here name with
    | .place names =>
      if ((fs.at? names).map FileTree.isDirectory).getD false then .error .isDirectory
      else .ok names
    | .link path => along (startOf here path) path.segments
    | .nowhere => .ok (here ++ [name])

/-- Follows segments from a directory; `along` follows what is left to follow at a link. If `creates`
is set, they lead to a file that may have to be created. -/
def walk (fs : Files) (creates : Bool) (along : Walk) : Walk
  | here, [] => .ok here
  | here, segment :: rest =>
    if creates && rest.all (· == "") then fs.aim along here segment rest
    else do
      match ← fs.step here segment with
      | .place next => walk fs creates along next rest
      | .link path => along (startOf here path) (path.segments ++ rest)
      | .nowhere => .error .missing

/-- Follows segments from a directory through at most so many links. -/
def followWithin (fs : Files) (creates : Bool) : (links : Nat) → Walk
  | 0 => fs.walk creates fun _ _ => .error .tooManyLinks
  | links + 1 => fs.walk creates (fs.followWithin creates links)

/-- How many links there may be on the way of a path. -/
def maxLinks : Nat := 40

/-- Follows segments from the directory `here`; the result is a list of names. -/
def follow (fs : Files) : Walk :=
  fs.followWithin false maxLinks

/-- Refuses a path that the system does not even look at. -/
def checkPath (path : FilePath) : Except SystemFault Unit :=
  if path.text.toList.contains '\x00' then .error .nulInPath
  else if path.isTooLong then .error .nameTooLong
  else .ok ()

/-- The names that lead from the root to the directory where a path starts. -/
def start (fs : Files) (path : FilePath) : List FileName :=
  startOf fs.working path

/-- The names that lead from the root where a path leads. -/
def locate (fs : Files) (path : FilePath) : Except SystemFault (List FileName) := do
  checkPath path
  if path.isEmpty then .error .missing else fs.follow (fs.start path) path.segments

/-- The names of the entry at the end of a path, which may be a link that is not followed. -/
def locateEntry (fs : Files) (path : FilePath) : Except SystemFault (List FileName) := do
  checkPath path
  let segments := path.segments
  let name := segments.getLast?.getD ""
  if name.isIdle ∨ name = ".." then fs.locate path
  else
    let above ← fs.follow (fs.start path) segments.dropLast
    match fs.at? above with
    | some (.directory entries _) =>
      if name.isTooLong then throw .nameTooLong
      if (FileTree.child? name entries).isNone then throw .missing
      return above ++ [name]
    | _ => throw .notDirectory

/-- The entry at the end of a path, which may be a link that is not followed. -/
def findEntry (fs : Files) (path : FilePath) : Except SystemFault FileTree := do
  match fs.at? (← fs.locateEntry path) with
  | some t => return t
  | none => throw .missing

/-- What a path leads to. -/
def find (fs : Files) (path : FilePath) : Except SystemFault FileTree := do
  match fs.at? (← fs.locate path) with
  | some t => return t
  | none => throw .missing

/-- Whether a path leads anywhere. -/
def contains (fs : Files) (path : FilePath) : Bool :=
  match fs.find path with
  | .ok _ => true
  | .error _ => false

/-- Whether a path leads to a file, which a device is not. -/
def isFile (fs : Files) (path : FilePath) : Bool :=
  match fs.find path with
  | .ok (.file _ _) => true
  | _ => false

/-- Whether a path leads to a directory. -/
def isDirectory (fs : Files) (path : FilePath) : Bool :=
  match fs.find path with
  | .ok t => t.isDirectory
  | .error _ => false

/-- The text of a file, or the one that is read from a device. -/
def read (fs : Files) (path : FilePath) : Except SystemFault String := do
  match ← (← fs.find path).reading with
  | .text content => return content
  | .binary _ => throw .notText

/-- The names in a directory. -/
def list (fs : Files) (path : FilePath) : Except SystemFault (List FileName) := do
  match ← fs.find path with
  | .directory entries _ => return entries.map Prod.fst
  | .file _ _ | .link _ | .device _ _ => throw .notDirectory

/-- Replaces, adds or removes what lies at the end of a list of names. -/
def set (fs : Files) (names : List FileName) (new : Option FileTree) : Files :=
  { fs with entries := FileTree.setAt new names fs.entries }

/-- Creates those directories that are missing on the way from `here`. -/
def createFrom : (here : List FileName) → List FileName → EStateM SystemFault Files Unit
  | _, [] => pure ()
  | here, segment :: rest => do
    if segment = ".." then createFrom here.dropLast rest
    else
      if segment.isTooLong then throw .nameTooLong
      let fs ← get
      match fs.at? (here ++ [segment]) with
      | none => do
        let next := here ++ [segment]
        modify fun fs => fs.set next (some (.directory [] FileTree.openMode))
        createFrom next rest
      | some _ =>
        match fs.follow here [segment] with
        | .error _ => throw .alreadyExists
        | .ok next =>
          if ((fs.at? next).map FileTree.isDirectory).getD false then createFrom next rest
          else throw (if rest = [] then .alreadyExists else .notDirectory)

/-- Creates the directory above a file, with all directories on its way that are missing. -/
def createParent (path : String) : EStateM SystemFault Files Unit := do
  let above := (Path.parts path).dropLast
  ofExcept (checkPath ("/".intercalate above))
  createFrom ((← get).start path) (above.map .text)

/-- The segments of a path without empty ones at its end. -/
def significant (path : String) : List String :=
  ((Path.segments path).reverse.dropWhile (· == "")).reverse

/-- The names that lead to a file that may have to be created. -/
def target (fs : Files) (path : FilePath) : Except SystemFault (List FileName) := do
  checkPath path
  if path.isEmpty then throw .missing
  fs.followWithin true maxLinks (fs.start path) path.segments

/-- The permissions of the file at the end of a list of names, or those for a new one. -/
def modeOr (fs : Files) (names : List FileName) (mode : Nat) : Nat :=
  match fs.at? names with
  | some (.file _ mode) => mode
  | _ => mode

/-- Gives the file at the end of a list of names its content; `mode` is for a new one. A device stays
what it is. -/
def putWith (fs : Files) (mode : Nat) (names : List FileName) (content : Content) : Files :=
  match fs.at? names with
  | some (.device _ _) => fs
  | _ => fs.set names (some (.file content (fs.modeOr names mode)))

/-- Gives the file at the end of a list of names its content. -/
def put (fs : Files) (names : List FileName) (content : Content) : Files :=
  fs.putWith FileTree.plainMode names content

/-- Whether what lies at the end of a list of names, if anything, takes what is written. -/
def accepts (fs : Files) (names : List FileName) : Except SystemFault Unit :=
  match fs.at? names with
  | some t => t.writing
  | none => .ok ()

/-- Writes a file, in place of an older one, or to a device. -/
def write (path : FilePath) (content : String) : EStateM SystemFault Files Unit := do
  let names ← ofExcept ((← get).target path)
  ofExcept ((← get).accepts names)
  modify fun fs => fs.put names (.text content)

/-- The names that lead from the root where a path leads if all directories on its way exist. -/
def place (fs : Files) (path : String) : List FileName :=
  (Path.parts path).foldl
    (fun here segment => if segment = ".." then here.dropLast else here ++ [(segment : FileName)])
    (fs.start path)

/-- Puts a file with some content, or an empty directory if there is none, together with the
directories on its way. -/
def plant (fs : Files) (path : String) (content : Option Content) : Files :=
  fs.set (fs.place path) (some (match content with
    | some content => .file content FileTree.plainMode
    | none => .directory [] FileTree.openMode))

/-- All files, with the names that lead to them from the root. -/
def contents (fs : Files) : List (List FileName × Content) :=
  FileTree.leavesOf [] fs.entries

/-- The files that another system does not have, or has with another content. -/
def beyond (fs other : Files) : List (List FileName × Content) :=
  fs.contents.filter fun (names, content) =>
    match other.at? names with
    | some (.file old _) => old != content
    | _ => true

/-- Removes a file or a whole directory. -/
def remove (fs : Files) (path : FilePath) : Files :=
  match fs.locateEntry path with
  | .ok names => fs.set names none
  | .error _ => fs

end Files

end UseCase
