import UseCase.Text.Split

/-!
# Paths

A path is a text whose segments stand between slashes. Empty segments and single dots lead nowhere,
two dots lead to the directory above. The last segment of a file's path is its name, and what
follows the last dot in the name, unless the name starts with that dot, is its extension.
-/

namespace UseCase.Path

/-- The pieces of a path between its slashes. -/
def segments (path : String) : List String :=
  (Text.segments '/' path.toList).map String.ofList

/-- Whether a path starts at the root of the file system. -/
def isAbsolute (path : String) : Bool :=
  path.toList.head? == some '/'

/-- A segment that leads nowhere. -/
def isIdle (segment : String) : Bool :=
  segment == "" || segment == "."

/-- Whether a segment is longer than the name of a file may be. -/
def isTooLongName (segment : String) : Bool :=
  255 < segment.utf8ByteSize

/-- Whether a path is longer than paths may be. -/
def isTooLong (path : String) : Bool :=
  4096 ≤ path.utf8ByteSize

/-- The segments that lead somewhere. -/
def parts (path : String) : List String :=
  (segments path).filter fun s => !isIdle s

/-- A path below another one. An absolute path stands for itself. -/
def join (base path : String) : String :=
  if isAbsolute path then path
  else if base.isEmpty || base.toList.getLast? == some '/' then base ++ path
  else base ++ "/" ++ path

/-- The name of the file that a path leads to. -/
def fileName (path : String) : String :=
  (parts path).getLast?.getD ""

/-- The characters before and after the last dot. -/
def cutLastDot (name : List Char) : Option (List Char × List Char) :=
  (Text.cut '.' name.reverse).map fun (back, front) => (front.reverse, back.reverse)

/-- The stem and the extension of a file's name. -/
def splitName (name : String) : String × Option String :=
  match cutLastDot name.toList with
  | none | some ([], _) => (name, none)
  | some (stem, ext) => (String.ofList stem, some (String.ofList ext))

/-- The name of a path's file without its extension. -/
def stem (path : String) : String :=
  (splitName (fileName path)).1

/-- The extension of a file's name. -/
def extension? (name : String) : Option String :=
  (splitName name).2

end UseCase.Path
