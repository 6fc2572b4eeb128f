/-!
# Bytes

A sequence of bytes is kept as a list of characters whose numbers are below 256. A text has such a
sequence as its UTF-8 form. On the way back, every longest start of a character that is not
finished, and every byte that starts none, becomes a replacement character.
-/

namespace UseCase.Text

/-- Bytes, each as the character with its number. -/
abbrev Bytes := List Char

/-- The bytes of an array. -/
def bytesOf (data : ByteArray) : Bytes :=
  data.data.toList.map fun b => Char.ofNat b.toNat

/-- The bytes of a text. -/
def bytes (s : String) : Bytes :=
  bytesOf s.toUTF8

/-- The array of some bytes. -/
def arrayOf (bs : Bytes) : ByteArray :=
  ⟨(bs.map fun c => c.toNat.toUInt8).toArray⟩

/-- The text that bytes are, if they are one. -/
def ofBytes? (bs : Bytes) : Option String :=
  String.fromUTF8? (arrayOf bs)

/-- The start of a character of several bytes. -/
structure Unfinished where
  /-- The bits so far. -/
  value : Nat
  /-- The number of bytes to come, at least one. -/
  remaining : Nat
  /-- The bounds of the next byte. -/
  low : Nat
  high : Nat

/-- The character that stands for bytes that are none. -/
def replacement : Char := '\ufffd'

/-- The character of several bytes that a byte starts. -/
def startOf? (b : Nat) : Option Unfinished :=
  if 0xC2 ≤ b ∧ b ≤ 0xDF then some ⟨b - 0xC0, 1, 0x80, 0xBF⟩
  else if b = 0xE0 then some ⟨0, 2, 0xA0, 0xBF⟩
  else if b = 0xED then some ⟨0x0D, 2, 0x80, 0x9F⟩
  else if 0xE1 ≤ b ∧ b ≤ 0xEF then some ⟨b - 0xE0, 2, 0x80, 0xBF⟩
  else if b = 0xF0 then some ⟨0, 3, 0x90, 0xBF⟩
  else if b = 0xF4 then some ⟨4, 3, 0x80, 0x8F⟩
  else if 0xF1 ≤ b ∧ b ≤ 0xF3 then some ⟨b - 0xF0, 3, 0x80, 0xBF⟩
  else none

/-- What a byte between two characters adds to the text, and the character that it starts. -/
def decodeFirst (b : Char) : List Char × Option Unfinished :=
  if b.toNat < 0x80 then ([b], none)
  else match startOf? b.toNat with
    | some u => ([], some u)
    | none => ([replacement], none)

/-- What a byte adds to the text after an unfinished character, and the character unfinished then.
-/
def decodeNext (u : Unfinished) (b : Char) : List Char × Option Unfinished :=
  if u.low ≤ b.toNat ∧ b.toNat ≤ u.high then
    let value := u.value * 64 + (b.toNat - 0x80)
    if u.remaining = 1 then ([Char.ofNat value], none)
    else ([], some ⟨value, u.remaining - 1, 0x80, 0xBF⟩)
  else
    let (added, next) := decodeFirst b
    (replacement :: added, next)

/-- The characters of bytes after an unfinished character. -/
def decodeFrom : Option Unfinished → Bytes → List Char
  | none, [] => []
  | some _, [] => [replacement]
  | unfinished, b :: rest =>
    let (added, next) := match unfinished with
      | none => decodeFirst b
      | some u => decodeNext u b
    added ++ decodeFrom next rest

/-- The text of bytes, with replacements for those that are none. -/
def ofBytes (bs : Bytes) : String :=
  match ofBytes? bs with
  | some s => s
  | none => String.ofList (decodeFrom none bs)

end UseCase.Text
