import UseCase.Toml.Bare
import UseCase.Toml.Draft
import UseCase.Toml.Quoted

/-!
# TOML documents

A document is read as a list of statements, each of which is a table's header, the header of one
more table of an array, or a key with its value. The statements are then carried out on an empty
document. All readers take a value off the front of a text and answer with the rest, or refuse.
-/

namespace UseCase.Toml

/-- Arrays and inline tables nest at most this deep, and a key has at most so many parts. -/
def maxDepth : Nat := 80

/-- Drops blanks within a line. -/
def skipSpace (cs : List Char) : List Char :=
  cs.dropWhile isSpace

/-- Drops blanks, line breaks and comments; refuses what may not stand in a comment. -/
def skipGap (inComment : Bool) : List Char → Option (List Char)
  | [] => some []
  | c :: rest =>
    if c = '\n' then skipGap false rest
    else if isBreak c rest then skipGap false rest
    else if inComment then if isPlain c then skipGap true rest else none
    else if isSpace c then skipGap false rest
    else if c = '#' then skipGap true rest
    else some (c :: rest)

/-- A character of a key without quotation marks. -/
def isKeyChar (c : Char) : Bool :=
  c.isAlphanum || c == '_' || c == '-'

/-- Reads one part of a key. -/
def keyPart? (cs : List Char) : Option (String × List Char) :=
  match quotedLine? cs with
  | some read => some read
  | none =>
    let part := cs.takeWhile isKeyChar
    if part = [] then none else some (String.ofList part, cs.dropWhile isKeyChar)

/-- Reads a key of at most `fuel` parts and drops the blanks around it. -/
def keyOf? : (fuel : Nat) → List Char → Option (Key × List Char)
  | 0, _ => none
  | fuel + 1, cs => do
    let (part, rest) ← keyPart? (skipSpace cs)
    match skipSpace rest with
    | '.' :: rest => do
      let (key, rest) ← keyOf? fuel rest
      return (⟨part :: key.path, key.name⟩, rest)
    | rest => return (⟨[], part⟩, rest)

/-- Reads a key. -/
def key? (cs : List Char) : Option (Key × List Char) :=
  keyOf? maxDepth cs

/-- Reads at most `fuel` items with commas between them up to the closing character; a comma may
follow the last one. -/
def itemsOf? {α : Type} (close : Char) (item : List Char → Option (α × List Char)) :
    (fuel : Nat) → List Char → Option (List α × List Char)
  | 0, _ => none
  | fuel + 1, cs => do
    match ← skipGap false cs with
    | [] => none
    | c :: rest =>
      if c = close then return ([], rest)
      let (first, rest) ← item (c :: rest)
      match ← skipGap false rest with
      | [] => none
      | c :: rest =>
        if c = close then return ([first], rest)
        else if c = ',' then do
          let (more, rest) ← itemsOf? close item fuel rest
          return (first :: more, rest)
        else none

/-- Reads items with commas between them up to the closing character. -/
def items? {α : Type} (close : Char) (item : List Char → Option (α × List Char)) (cs : List Char) :
    Option (List α × List Char) :=
  itemsOf? close item (cs.length + 1) cs

/-- Reads a key, an equals sign and a value; `gap?` drops what may stand around the sign. -/
def pair? (gap? : List Char → Option (List Char)) (value : List Char → Option (Value × List Char))
    (cs : List Char) : Option ((Key × Value) × List Char) := do
  let (key, rest) ← key? cs
  match ← gap? rest with
  | '=' :: rest => do
    let (v, rest) ← value (← gap? rest)
    return ((key, v), rest)
  | _ => none

/-- The table that pairs make. -/
def tableOf? (pairs : List (Key × Value)) : Option Value := do
  let entries ← pairs.foldlM (fun entries (key, v) => Draft.put key.name v key.path entries) []
  return .table (Draft.finishEntries entries)

/-- Reads a value that is no array and no table. -/
def scalar? (cs : List Char) : Option (Value × List Char) :=
  match quoted? cs with
  | some (content, rest) => some (.text content, rest)
  | none => bare? cs

/-- Reads a value whose arrays and tables nest at most `depth` deep. Within them lines may end
between any two parts. -/
def value? : (depth : Nat) → List Char → Option (Value × List Char)
  | 0, cs => scalar? cs
  | depth + 1, cs =>
    match cs with
    | '[' :: rest => (items? ']' (value? depth) rest).map fun (items, rest) => (.array items, rest)
    | '\x7b' :: rest => do
      let (pairs, rest) ← items? '\x7d' (pair? (skipGap false) (value? depth)) rest
      return (← tableOf? pairs, rest)
    | _ => scalar? cs

/-- One statement of a document. -/
inductive Statement where
  /-- The header of a table. -/
  | table (key : Key)
  /-- The header of one more table of an array. -/
  | element (key : Key)
  | pair (key : Key) (v : Value)

namespace Statement

/-- Reads a statement. -/
def read? : List Char → Option (Statement × List Char)
  | '[' :: '[' :: rest => do
    match ← key? rest with
    | (key, ']' :: ']' :: rest) => return (element key, rest)
    | _ => none
  | '[' :: rest => do
    match ← key? rest with
    | (key, ']' :: rest) => return (table key, rest)
    | _ => none
  | cs => do
    let ((key, v), rest) ← pair? (some ∘ skipSpace) (value? maxDepth) cs
    return (pair key v, rest)

/-- Drops what may follow a statement on its line; refuses anything else. -/
def endLine? (cs : List Char) : Option (List Char) :=
  match skipSpace cs with
  | [] => some []
  | c :: rest => if c = '#' ∨ isBreak c rest then some (c :: rest) else none

/-- Reads at most `fuel` statements, up to the end of the text. -/
def readAll? : (fuel : Nat) → List Char → Option (List Statement)
  | 0, _ => none
  | fuel + 1, cs => do
    match ← skipGap false cs with
    | [] => return []
    | c :: cs => do
      let (first, rest) ← read? (c :: cs)
      let more ← readAll? fuel (← endLine? rest)
      return first :: more

end Statement

/-- A document under construction and the path of the table to which pairs are added. -/
structure Progress where
  entries : Draft.Entries
  current : List String

/-- Carries out a statement. -/
def Progress.add (p : Progress) : Statement → Option Progress
  | .table key => do
    return ⟨← Draft.within (Draft.define key.name) key.path p.entries, key.path ++ [key.name]⟩
  | .element key => do
    return ⟨← Draft.within (Draft.append key.name) key.path p.entries, key.path ++ [key.name]⟩
  | .pair key v => do
    return ⟨← Draft.within (Draft.put key.name v key.path) p.current p.entries, p.current⟩

/-- The table that statements make. -/
def build? (statements : List Statement) : Option Value := do
  let p ← statements.foldlM Progress.add ⟨[], []⟩
  return .table (Draft.finishEntries p.entries)

/-- The text without a byte order mark. -/
def dropMark : List Char → List Char
  | '\ufeff' :: rest => rest
  | cs => cs

/-- Reads a document; it is a table. -/
def Value.ofText? (text : String) : Option Value := do
  let cs := dropMark text.toList
  build? (← Statement.readAll? (cs.length + 1) cs)

end UseCase.Toml
