import UseCase.Text.Numeral

/-!
# Quoted strings

A string stands between quotation marks, with escapes, or between apostrophes, as it is; three marks
instead of one make a string that may hold line breaks. The characters up to the closing marks are
taken first and the escapes in them resolved afterwards. `quote` writes a string so that it reads
back.
-/

namespace UseCase.Toml

/-- The mark around strings with escapes. -/
def basicMark : Char := '\x22'

/-- The mark around strings without escapes. -/
def literalMark : Char := '\x27'

/-- A blank within a line. -/
def isSpace (c : Char) : Bool :=
  c == ' ' || c == '\t'

/-- A character that may stand in a string or a comment: a tab, or anything but a control character.
-/
def isPlain (c : Char) : Bool :=
  c == '\t' || (0x20 ≤ c.toNat && c.toNat != 0x7F)

/-- Whether a line break starts with `c` before `rest`. -/
def isBreak (c : Char) (rest : List Char) : Bool :=
  c == '\n' || (c == '\r' && rest.head? == some '\n')

/-- The text without a line break at the front. -/
def dropBreak : List Char → List Char
  | '\n' :: rest => rest
  | '\r' :: '\n' :: rest => rest
  | cs => cs

/-- The characters before the closing mark, and the text after it. With `escapes`, the character
behind a backslash closes nothing. -/
def takeLine (mark : Char) (escapes : Bool) : List Char → Option (List Char × List Char)
  | [] => none
  | c :: rest =>
    if c = mark then some ([], rest)
    else if !isPlain c then none
    else if escapes && c == '\\' then
      match rest with
      | [] => none
      | d :: rest =>
        if isPlain d then
          (takeLine mark escapes rest).map fun (content, after) => (c :: d :: content, after)
        else none
    else (takeLine mark escapes rest).map fun (content, after) => (c :: content, after)

/-- The end of a string with three marks: up to two marks before the closing ones belong to it. -/
def takeClosing (mark : Char) (cs : List Char) : Option (List Char × List Char) :=
  let count := min 5 (cs.takeWhile (· == mark)).length
  if count < 3 then none else some (List.replicate (count - 3) mark, cs.drop count)

/-- The characters before the three closing marks, and the text after them. -/
def takeBlock (mark : Char) (escapes : Bool) : List Char → Option (List Char × List Char)
  | [] => none
  | c :: rest =>
    match takeClosing mark (c :: rest) with
    | some closed => some closed
    | none =>
      if !(isPlain c || isBreak c rest) then none
      else if escapes && c == '\\' then
        match rest with
        | [] => none
        | d :: rest =>
          if isPlain d || isBreak d rest then
            (takeBlock mark escapes rest).map fun (content, after) => (c :: d :: content, after)
          else none
      else (takeBlock mark escapes rest).map fun (content, after) => (c :: content, after)

/-- The character that a backslash and this one stand for. -/
def shortEscape? : Char → Option Char
  | 'b' => some '\x08'
  | 't' => some '\t'
  | 'n' => some '\n'
  | 'f' => some '\x0c'
  | 'r' => some '\r'
  | 'e' => some '\x1b'
  | '\x22' => some '\x22'
  | '\\' => some '\\'
  | _ => none

/-- The character whose code point the hexadecimal digits write. -/
def codePoint? (digits : List Char) : Option Char :=
  (Text.radixFrom? 16 0 digits).bind fun n => if n.isValidChar then some (Char.ofNat n) else none

/-- A character before the rest of a string, if both are there. -/
def prepend (c : Option Char) (rest : Option (List Char)) : Option (List Char) :=
  c.bind fun c => rest.map (c :: ·)

/-- A blank or a part of a line break. -/
def isGap (c : Char) : Bool :=
  isSpace c || c == '\n' || c == '\r'

/-- Whether nothing but blanks stand before the next line break. -/
def endsLine (cs : List Char) : Bool :=
  match cs.dropWhile isSpace with
  | c :: rest => isBreak c rest
  | [] => false

/-- Resolves the escapes. A backslash at the end of a line is left out together with all blanks and
line breaks after it; `skipping` tells that such a gap is being left out. -/
def unescape (skipping : Bool) : List Char → Option (List Char)
  | [] => some []
  | c :: rest =>
    if skipping && isGap c then unescape true rest
    else if c ≠ '\\' then (unescape false rest).map (c :: ·)
    else match rest with
      | 'x' :: a :: b :: rest => prepend (codePoint? [a, b]) (unescape false rest)
      | 'u' :: a :: b :: c :: d :: rest =>
        prepend (codePoint? [a, b, c, d]) (unescape false rest)
      | 'U' :: a :: b :: c :: d :: e :: f :: g :: h :: rest =>
        prepend (codePoint? [a, b, c, d, e, f, g, h]) (unescape false rest)
      | d :: rest =>
        if isGap d && endsLine (d :: rest) then unescape true rest
        else prepend (shortEscape? d) (unescape false rest)
      | [] => none

/-- Reads what follows the mark of a string on one line. -/
def readLine (mark : Char) (cs : List Char) : Option (String × List Char) := do
  let escapes := mark == basicMark
  let (content, after) ← takeLine mark escapes cs
  let content ← if escapes then unescape false content else some content
  return (String.ofList content, after)

/-- Reads what follows the three marks of a string on several lines; a line break right after the
marks does not belong to it. -/
def readBlock (mark : Char) (cs : List Char) : Option (String × List Char) := do
  let escapes := mark == basicMark
  let (content, after) ← takeBlock mark escapes (dropBreak cs)
  let content ← if escapes then unescape false content else some content
  return (String.ofList content, after)

/-- Reads a string on one line. -/
def quotedLine? : List Char → Option (String × List Char)
  | c :: rest => if c = basicMark ∨ c = literalMark then readLine c rest else none
  | [] => none

/-- Reads a string of any form. -/
def quoted? (cs : List Char) : Option (String × List Char) :=
  match cs with
  | a :: b :: c :: rest =>
    if (a = basicMark ∨ a = literalMark) ∧ b = a ∧ c = a then readBlock a rest else quotedLine? cs
  | _ => quotedLine? cs

/-- How a character is written between quotation marks. -/
def escape (c : Char) : List Char :=
  if c = '\x22' then ['\\', '\x22']
  else if c = '\\' then ['\\', '\\']
  else if c = '\n' then ['\\', 'n']
  else if c = '\t' then ['\\', 't']
  else if c = '\r' then ['\\', 'r']
  else if isPlain c then [c]
  else '\\' :: 'u' :: (Text.hexadecimal 4 c.toNat).toList

/-- Writes a string between quotation marks. -/
def quote (s : String) : List Char :=
  basicMark :: (s.toList.flatMap escape ++ [basicMark])

end UseCase.Toml
