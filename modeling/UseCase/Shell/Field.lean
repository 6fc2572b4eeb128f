import UseCase.Shell.Pattern
import UseCase.Files
import UseCase.Text.Order

/-!
# Fields

What the expansions of a word leave is cut into fields: at blanks and other separators that come
from values, and where one argument of a shell ends. A field with the marks of a pattern then
becomes the names of the files that match it, in the order of their bytes, if there are any.
-/

namespace UseCase.Shell

open Text (Bytes)

/-- A part of an expanded word. -/
inductive Item where
  /-- A character; it may be one that separates fields. -/
  | mark (m : Mark) (separates : Bool)
  /-- Where one field ends and the next one begins. -/
  | boundary
  /-- An empty text in quotation marks, which makes a field. -/
  | hold

namespace Item

/-- The characters of a text as parts of a word. -/
def ofText (isProtected separates : Bool) (cs : Bytes) : List Item :=
  cs.map fun c => .mark ⟨c, isProtected⟩ separates

/-- The marks of parts that become a single field, with a text where one argument ends and the next
one begins. -/
def marks (between : Bytes) (items : List Item) : List Mark :=
  items.flatMap fun
    | .mark m _ => [m]
    | .boundary => between.map fun c => ⟨c, true⟩
    | .hold => []

/-- The fields after the marks of the current one, which are in reverse. `isAfterBlank` tells that a
field has just ended at a blank or at the end of an argument. -/
def split (separators : Bytes) (current : Option (List Mark)) (isAfterBlank : Bool) :
    List Item → List (List Mark)
  | [] => (current.map List.reverse).toList
  | .boundary :: rest =>
    match current with
    | some field => field.reverse :: split separators none true rest
    | none => split separators none isAfterBlank rest
  | .hold :: rest => split separators (some (current.getD [])) false rest
  | .mark m separates :: rest =>
    if separates && separators.contains m.char then
      if m.char = ' ' ∨ m.char = '\t' ∨ m.char = '\n' then
        match current with
        | some field => field.reverse :: split separators none true rest
        | none => split separators none isAfterBlank rest
      else match current, isAfterBlank with
        | some field, _ => field.reverse :: split separators none false rest
        | none, true => split separators none false rest
        | none, false => [] :: split separators none false rest
    else split separators (some (m :: current.getD [])) false rest

/-- The fields of an expanded word. -/
def fields (separators : Bytes) (items : List Item) : List (List Mark) :=
  split separators none false items

end Item

namespace Pattern

/-- The pieces of marks between their slashes. -/
def pathSegments (ms : List Mark) : List (List Mark) :=
  ms.foldr (fun m pieces =>
    if m.char = '/' then [] :: pieces
    else match pieces with
      | [] => [[m]]
      | piece :: pieces => (m :: piece) :: pieces) [[]]

/-- The names in a directory; an empty path stands for the directory where one works. -/
def namesIn (fs : Files) (path : Bytes) : List Bytes :=
  match fs.list (if path.isEmpty then "." else Text.ofBytes path) with
  | .ok names => (".".toList :: "..".toList :: names.map FileName.bytes)
  | .error _ => []

/-- Whether a name matches; a dot at its start has to be met by itself. -/
def matchesName (p : Pattern) (name : Bytes) : Bool :=
  (name.head? != some '.' || p.head? == some (.char '.')) && p.isMatch name

/-- The paths below a path that match the segments of a pattern. -/
def pathsBelow (fs : Files) (path : Bytes) : List (List Mark) → List Bytes
  | [] => [path]
  | segment :: rest =>
    let p := ofMarks segment
    let next := fun (name : Bytes) =>
      let path := path ++ name
      match rest with
      | [] =>
        match fs.findEntry (Text.ofBytes path) with
        | .ok _ => [path]
        | .error _ => []
      | rest => pathsBelow fs (path ++ ['/']) rest
    if p.isOpen then ((namesIn fs path).filter (matchesName p)).flatMap next
    else next (plainText segment)

/-- Puts a text in front of the first one that is greater. -/
def place (cs : Bytes) : List Bytes → List Bytes
  | [] => [cs]
  | d :: rest =>
    if Text.before (String.ofList cs) (String.ofList d) then cs :: d :: rest else d :: place cs rest

/-- Texts in the order of their bytes. -/
def sorted (texts : List Bytes) : List Bytes :=
  texts.foldr place []

/-- The paths of the files that a field stands for. -/
def paths (fs : Files) (field : List Mark) : List Bytes :=
  match sorted (pathsBelow fs [] (pathSegments field)) with
  | [] => [plainText field]
  | paths => paths

/-- The texts of a field; `expands` tells whether patterns stand for files. -/
def texts (fs : Files) (expands : Bool) (field : List Mark) : List Bytes :=
  if expands && (ofMarks field).isOpen then paths fs field else [plainText field]

end Pattern

end UseCase.Shell
