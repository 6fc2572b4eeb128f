import UseCase.Shell.Format
import UseCase.Shell.Tool

/-!
# Bytes in other forms

`od` prints bytes as numbers or characters, some of them on each line behind their place, and `base64`
writes three bytes as four letters and reads them back.
-/

namespace UseCase.Shell.Tool

open Text (Bytes)

/-! ### Dumps -/

/-- A way to print the bytes of a file: as characters, or as numbers of some bytes each. -/
inductive DumpForm where
  | characters
  | names
  | numbers (letter : Char) (size : Nat)

namespace DumpForm

/-- Reads a form such as `x1`. -/
def ofText? (cs : Bytes) : Option DumpForm :=
  match cs with
  | ['c'] => some characters
  | ['a'] => some names
  | letter :: size =>
    if ['d', 'o', 'u', 'x'].contains letter then
      match String.ofList size with
      | "1" | "C" => some (numbers letter 1)
      | "2" | "S" => some (numbers letter 2)
      | "" | "4" | "I" => some (numbers letter 4)
      | "8" | "L" => some (numbers letter 8)
      | _ => none
    else none
  | [] => none

/-- The number of bytes for each item. -/
def size : DumpForm → Nat
  | characters | names => 1
  | numbers _ size => size

/-- The number of bytes that write an item. -/
def width : DumpForm → Nat
  | characters | names => 3
  | numbers letter size =>
    let most := Nat.pow 2 (8 * size) - 1
    match letter with
    | 'x' => 2 * size
    | 'o' => (Nat.toDigits 8 most).length
    | 'u' => (Nat.toDigits 10 most).length
    | _ => (Nat.toDigits 10 (most / 2)).length + 1

/-- A byte as a character or an escape. -/
def character (c : Char) : Bytes :=
  match c with
  | '\x00' => "\\0".toList
  | '\x07' => "\\a".toList
  | '\x08' => "\\b".toList
  | '\t' => "\\t".toList
  | '\n' => "\\n".toList
  | '\x0b' => "\\v".toList
  | '\x0c' => "\\f".toList
  | '\r' => "\\r".toList
  | c => if ' ' ≤ c ∧ c ≤ '~' then [c] else (Text.padded 3 (Nat.toDigits 8 c.toNat)).toList

/-- The names of the bytes that are no characters. -/
def controlNames : List String :=
  ["nul", "soh", "stx", "etx", "eot", "enq", "ack", "bel", "bs", "ht", "nl", "vt", "ff", "cr", "so",
    "si", "dle", "dc1", "dc2", "dc3", "dc4", "nak", "syn", "etb", "can", "em", "sub", "esc", "fs",
    "gs", "rs", "us", "sp"]

/-- A byte as a character or a name; the highest bit does not count. -/
def named (c : Char) : Bytes :=
  let n := c.toNat % 128
  if n = 127 then "del".toList else ((controlNames[n]?).map String.toList).getD [Char.ofNat n]

/-- The text of an item, without the blanks in front of it. -/
def item (form : DumpForm) (bs : Bytes) : Bytes :=
  match form with
  | characters => character (bs.headD '\x00')
  | names => named (bs.headD '\x00')
  | numbers letter size =>
    let n := bs.foldr (fun c n => n * 256 + c.toNat) 0
    match letter with
    | 'x' => ((Text.padded form.width (Nat.toDigits 16 n))).toList
    | 'o' => (Text.padded form.width (Nat.toDigits 8 n)).toList
    | 'u' => Nat.toDigits 10 n
    | _ =>
      let half := Nat.pow 2 (8 * size - 1)
      if n < half then Nat.toDigits 10 n else '-' :: Nat.toDigits 10 (2 * half - n)

/-- Pieces of some bytes, all of the same size but the last one. -/
def pieces (size : Nat) : (fuel : Nat) → Bytes → List Bytes
  | 0, _ | _, [] => []
  | fuel + 1, bs => bs.take size :: pieces size fuel (bs.drop size)

/-- The greatest number of bytes for an item. -/
def block : Nat := 8

/-- The number of bytes that write as many items as one block has. -/
def room (form : DumpForm) : Nat :=
  (form.width + 1) * (block / form.size)

/-- The text of the items of a line; the items of a block have some room. -/
def line (form : DumpForm) (room : Nat) (bs : Bytes) : Bytes :=
  (pieces form.size bs.length bs).flatMap fun piece =>
    let cs := form.item piece
    List.replicate (room * form.size / block - cs.length) ' ' ++ cs

end DumpForm

/-- The place of a line in some base, if it is shown. -/
def dumpPlace (radix : Char) (n : Nat) : Bytes :=
  match radix with
  | 'n' => []
  | 'd' => (Text.decimal 7 n).toList
  | 'x' => (Text.padded 6 (Nat.toDigits 16 n)).toList
  | _ => (Text.padded 7 (Nat.toDigits 8 n)).toList

/-- The lines of a dump; lines that equal the one in front become an asterisk. -/
def dumpLines (radix : Char) (showsAll : Bool) (forms : List DumpForm) (width : Nat) (start : Nat)
    (bs : Bytes) : Bytes :=
  let room := (forms.map DumpForm.room).foldl max 0
  let front := fun (n : Nat) => dumpPlace radix n
  let step := fun (state : Bytes × Option Bytes × Bool × Nat) (piece : Bytes) =>
    let (out, last, isStarred, place) := state
    let next := place + piece.length
    if !showsAll && last == some piece && piece.length == width then
      (if isStarred then out else out ++ ['*', '\n'], last, true, next)
    else
      let rows := forms.zipIdx.flatMap fun (form, i) =>
        (if i = 0 then front place else List.replicate (front place).length ' ') ++
          form.line room piece ++ ['\n']
      (out ++ rows, some piece, false, next)
  let (out, _, _, place) :=
    (DumpForm.pieces width bs.length bs).foldl step ([], none, false, start)
  out ++ if radix = 'n' then [] else front place ++ ['\n']

/-- Prints bytes as numbers or characters. -/
def dump : Tool := fun _ args =>
  let long := [("address-radix", 'A'), ("format", 't'), ("read-bytes", 'N'), ("skip-bytes", 'j'),
    ("output-duplicates", 'v')]
  let a := arguments "abcdosxvi" "AtNjw" long args
  checked "od" 1 a do
    let forms? := a.options.mapM fun (letter, value) => match letter with
      | 't' => (DumpForm.ofText? value).map fun f => [f]
      | 'a' => some [.names]
      | 'b' => some [.numbers 'o' 1]
      | 'c' => some [.characters]
      | 'd' => some [.numbers 'u' 2]
      | 'o' => some [.numbers 'o' 2]
      | 's' => some [.numbers 'd' 2]
      | 'x' => some [.numbers 'x' 2]
      | 'i' => some [.numbers 'd' 4]
      | _ => some []
    match forms?.map List.flatten with
    | none =>
      let given := Text.ofBytes ((a.value? 't').getD [])
      tell "od" s!"invalid type string '{given}'"
      return 1
    | some forms =>
      let forms := if forms.isEmpty then [.numbers 'o' 2] else forms
      let (bs, status) ← readAll "od" 1 a.operands
      let number := fun (c : Char) => (a.value? c).bind Text.digits?
      let start := (number 'j').getD 0
      let bs := bs.drop start
      let bs := match number 'N' with
        | some n => bs.take n
        | none => bs
      let radix := ((a.value? 'A').bind List.head?).getD 'o'
      let width := max 1 ((number 'w').getD 16)
      output status (dumpLines radix (a.has 'v') forms width start bs)

/-! ### Letters for bits -/

/-- The letters for six bits. -/
def sixBitLetters : Bytes :=
  "ABCDEFGHIJKLMNOPQRSTUVWXYZabcdefghijklmnopqrstuvwxyz0123456789+/".toList

/-- Up to three bytes as four letters. -/
def encodeThree (bs : Bytes) : Bytes :=
  let n := ((bs.map Char.toNat ++ [0, 0]).take 3).foldl (fun n b => n * 256 + b) 0
  let letter := fun (i : Nat) => (sixBitLetters[n / Nat.pow 64 (3 - i) % 64]?).getD '='
  ((List.range 4).map letter).take (bs.length + 1) ++ List.replicate (3 - bs.length) '='

/-- The bytes that four letters write, if they are letters of that kind. -/
def decodeFour? (cs : Bytes) : Option Bytes := do
  let letters := cs.takeWhile (· != '=')
  guard (cs.length = 4 ∧ 2 ≤ letters.length ∧ (cs.drop letters.length).all (· == '='))
  let values ← letters.mapM sixBitLetters.idxOf?
  let n := (values ++ List.replicate (4 - values.length) 0).foldl (fun n v => n * 64 + v) 0
  let bytes := [n / 65536, n / 256 % 256, n % 256].map Char.ofNat
  return bytes.take (letters.length - 1)

/-- Writes bytes as letters, or reads them back. -/
def letterCode : Tool := fun _ args =>
  let long := [("decode", 'd'), ("ignore-garbage", 'i'), ("wrap", 'w')]
  let a := arguments "di" "w" long args
  checked "base64" 1 a do
    let (bs, status) ← readAll "base64" 1 (a.operands.take 1)
    if status != 0 then return status
    if a.has 'd' then
      let isLetter := fun (c : Char) => sixBitLetters.contains c || c == '='
      let cs := bs.filter fun c => if a.has 'i' then isLetter c else c != '\n'
      let groups := (DumpForm.pieces 4 cs.length cs).map decodeFour?
      let good := (groups.takeWhile Option.isSome).filterMap id
      let printed ← output 0 good.flatten
      if good.length < groups.length then
        tell "base64" "invalid input"
        return 1
      return printed
    else
      let cs := (DumpForm.pieces 3 bs.length bs).flatMap encodeThree
      match ((a.value? 'w').bind Text.digits?).getD 76 with
      | 0 => output 0 cs
      | width => output 0 (unlines (DumpForm.pieces width cs.length cs))

end UseCase.Shell.Tool
