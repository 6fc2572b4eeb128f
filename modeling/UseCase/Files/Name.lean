import UseCase.Files.Path
import UseCase.Text.Bytes
import UseCase.Text.Order

/-!
# Names of files

A directory may call an entry by any bytes but slashes and the one that ends texts of the system.
Most names are texts. The others are kept as bytes; no path that is a text leads to such an entry,
but whoever lists the directory comes upon it.
-/

namespace UseCase

/-- A name that is no text. -/
structure ForeignName where
  bytes : Text.Bytes
  isForeign : Text.ofBytes? bytes = none
  deriving DecidableEq, Repr

namespace ForeignName

/-- The text for the name, with replacements for the bytes that are none. -/
def shown (name : ForeignName) : String :=
  Text.ofBytes name.bytes

/-- The bytes before and after the last dot, unless the name has none or starts with it. -/
def split (name : ForeignName) : Text.Bytes × Option Text.Bytes :=
  match Path.cutLastDot name.bytes with
  | none | some ([], _) => (name.bytes, none)
  | some (stem, extension) => (stem, some extension)

end ForeignName

/-- The name of an entry of a directory. -/
inductive FileName where
  | text (name : String)
  | foreign (name : ForeignName)
  deriving DecidableEq, Repr

/-- A text stands for the name that it is. -/
instance : Coe String FileName := ⟨.text⟩

namespace FileName

/-- The name that bytes are. -/
def ofBytes (bytes : Text.Bytes) : FileName :=
  match isText : Text.ofBytes? bytes with
  | some name => text name
  | none => foreign ⟨bytes, isText⟩

/-- The bytes of a name. -/
def bytes : FileName → Text.Bytes
  | text name => Text.bytes name
  | foreign name => name.bytes

/-- The text for a name. -/
def shown : FileName → String
  | text name => name
  | foreign name => name.shown

/-- Whether a name leads nowhere as a segment of a path. -/
def isIdle : FileName → Bool
  | text name => Path.isIdle name
  | foreign _ => false

/-- Whether a name is longer than names may be. -/
def isTooLong : FileName → Bool
  | text name => Path.isTooLongName name
  | foreign name => 255 < name.bytes.length

/-- What follows the last dot in a name, unless the name starts with it or that is no text. -/
def extension? : FileName → Option String
  | text name => Path.extension? name
  | foreign name => name.split.2.bind Text.ofBytes?

/-- Whether one name comes before another: names are ordered by their bytes. -/
def before (name other : FileName) : Bool :=
  Text.lexicographic Text.charBefore name.bytes other.bytes

/-- The text that leads from the root to the end of a list of names. -/
def pathOf (names : List FileName) : Text.Bytes :=
  '/' :: ['/'].intercalate (names.map bytes)

end FileName

/-- A path: a text, or a text with the name of an entry behind it that is none. -/
structure FilePath where
  text : String
  last : Option ForeignName
  deriving DecidableEq, Repr

/-- A text stands for the path that it is. -/
instance : Coe String FilePath := ⟨fun text => ⟨text, none⟩⟩

namespace FilePath

/-- The path of an entry below another path. -/
def below (base : String) : FileName → FilePath
  | .text name => Path.join base name
  | .foreign name => ⟨base, some name⟩

/-- The names on a path. -/
def segments (path : FilePath) : List FileName :=
  (Path.segments path.text).map .text ++ path.last.toList.map .foreign

/-- Whether a path has no characters at all. -/
def isEmpty (path : FilePath) : Bool :=
  path.text.isEmpty && path.last.isNone

/-- Whether a path starts at the root of the file system. -/
def isAbsolute (path : FilePath) : Bool :=
  Path.isAbsolute path.text

/-- Whether a path is longer than paths may be. -/
def isTooLong (path : FilePath) : Bool :=
  match path.last with
  | none => Path.isTooLong path.text
  | some name => 4096 ≤ (Path.join path.text "").utf8ByteSize + name.bytes.length

/-- The text for a path. -/
def shown (path : FilePath) : String :=
  match path.last with
  | none => path.text
  | some name => Path.join path.text name.shown

/-- The name of a path's file without its extension, empty if that is no text. -/
def stem (path : FilePath) : String :=
  match path.last with
  | none => Path.stem path.text
  | some name => (Text.ofBytes? name.split.1).getD ""

end FilePath

end UseCase
