/-!
# Splitting at a separator

`segments` cuts a text at every occurrence of a separator and `cut` at the first one only. Joining
the pieces with the separator gives the text back.
-/

namespace UseCase.Text

/-- The pieces between the separators; a text without a separator is one piece. -/
def segments (sep : Char) : List Char → List (List Char)
  | [] => [[]]
  | c :: rest =>
    if c = sep then [] :: segments sep rest
    else match segments sep rest with
      | [] => [[c]]
      | piece :: pieces => (c :: piece) :: pieces

/-- The text before and after the first separator, if there is one. -/
def cut (sep : Char) : List Char → Option (List Char × List Char)
  | [] => none
  | c :: rest =>
    if c = sep then some ([], rest)
    else (cut sep rest).map fun (front, back) => (c :: front, back)

/-- The text after `start`, if it begins with `start`. -/
def after? : (start text : List Char) → Option (List Char)
  | [], text => some text
  | _ :: _, [] => none
  | s :: start, c :: text => if s = c then after? start text else none

/-- The lines of a text: a line ends at a line feed, and a carriage return before it is dropped.
An empty piece after the last line feed is no line. -/
def lines (text : List Char) : List (List Char) :=
  let pieces := segments '\n' text
  let whole := pieces.dropLast.map fun line =>
    if line.getLast? = some '\r' then line.dropLast else line
  match pieces.getLast? with
  | none | some [] => whole
  | some last => whole ++ [last]

end UseCase.Text
