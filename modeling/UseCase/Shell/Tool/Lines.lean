import UseCase.Shell.Field
import UseCase.Shell.Format
import UseCase.Shell.Tool

/-!
# Tools for lines

Tools that read files or the standard input and print their lines: all of them or some, in order or
in reverse, as they are or with numbers.
-/

namespace UseCase.Shell.Tool

open Text (Bytes)

/-! ### Files one after the other -/

/-- A byte below 128 in a form that can be seen. -/
def visibleLow (n : Nat) : Bytes :=
  if n < 32 then ['^', Char.ofNat (n + 64)] else if n = 127 then ['^', '?'] else [Char.ofNat n]

/-- A byte in a form that can be seen. -/
def visible (c : Char) : Bytes :=
  if c.toNat < 128 then visibleLow c.toNat else 'M' :: '-' :: visibleLow (c.toNat - 128)

/-- Lines without those that are empty and follow an empty one. -/
def squeezeEmpty (ls : List Bytes) : List Bytes :=
  (ls.foldl (fun kept l =>
    if l == ['\n'] && kept.head? == some ['\n'] then kept else l :: kept) []).reverse

/-- How `cat` shows a byte. -/
def shownByte (a : Arguments) (c : Char) : Bytes :=
  let showsAll := a.has 'A'
  if c = '\n' then if showsAll || a.has 'E' || a.has 'e' then ['$', '\n'] else ['\n']
  else if c = '\t' then if showsAll || a.has 'T' || a.has 't' then ['^', 'I'] else ['\t']
  else if showsAll || a.has 'v' || a.has 'e' || a.has 't' then visible c
  else [c]

/-- How `cat` shows the bytes of a line. -/
def shownLine (a : Arguments) : Bytes → Bytes
  | [] => []
  | '\r' :: '\n' :: rest =>
    let ends := a.has 'A' || a.has 'E' || a.has 'e'
    (if ends then "^M$\n".toList else '\r' :: ['\n']) ++ shownLine a rest
  | c :: rest => shownByte a c ++ shownLine a rest

/-- Prints files one after the other. -/
def concatenate : Tool := fun _ args =>
  let long := [("number", 'n'), ("number-nonblank", 'b'), ("show-all", 'A'), ("show-ends", 'E'),
    ("show-tabs", 'T'), ("show-nonprinting", 'v'), ("squeeze-blank", 's')]
  let a := arguments "nbsuvetAET" "" long args
  checked "cat" 1 a do
    let (bs, status) ← readAll "cat" 1 a.operands
    let ls := if a.has 's' then squeezeEmpty (wholeLines bs) else wholeLines bs
    let counts := fun (l : Bytes) => if a.has 'b' then l != ['\n'] else a.has 'n'
    let (_, out) := ls.foldl (fun (n, out) l =>
      if counts l then (n + 1, (aligned 6 n ++ '\t' :: shownLine a l) :: out)
      else (n, shownLine a l :: out)) (1, [])
    output status out.reverse.flatten

/-- Prints the lines of each file in reverse. -/
def reverseLines : Tool := fun _ args =>
  let a := arguments "br" "s" [] args
  checked "tac" 1 a do
    let (files, status) ← readEach "tac" 1 a.operands
    output status (files.flatMap fun (_, bs) => (wholeLines bs).reverse.flatten)

/-- Prints lines with their bytes in reverse. -/
def reverseBytes : Tool := fun _ args =>
  let a := arguments "" "" [] args
  checked "rev" 1 a do
    let (bs, status) ← readAll "rev" 1 a.operands
    output status ((wholeLines bs).flatMap fun l =>
      if l.getLast? = some '\n' then l.dropLast.reverse ++ ['\n'] else l.reverse)

/-! ### Lines with numbers -/

/-- How `nl` writes a number. -/
def lineNumber (form : Bytes) (width n : Nat) : Bytes :=
  let digits := Nat.toDigits 10 n
  let fill := fun (c : Char) => List.replicate (width - digits.length) c
  if form = "ln".toList then digits ++ fill ' '
  else if form = "rz".toList then fill '0' ++ digits
  else fill ' ' ++ digits

/-- Prints lines with their numbers. -/
def numberLines : Tool := fun _ args =>
  let long := [("body-numbering", 'b'), ("number-separator", 's'), ("number-width", 'w'),
    ("starting-line-number", 'v'), ("line-increment", 'i'), ("number-format", 'n')]
  let a := arguments "p" "bdfhilnsvw" long args
  checked "nl" 1 a do
    let number := fun (c : Char) (default : Nat) => ((a.value? c).bind Text.digits?).getD default
    let style := (a.value? 'b').getD ['t']
    let width := number 'w' 6
    if !(["a", "t", "n"].contains (String.ofList style)) then
      return ← misuse "nl" 1 s!"invalid body numbering style: '{Text.ofBytes style}'"
    if (a.value? 'w').any fun cs => (Text.digits? cs).isNone then
      let given := Text.ofBytes ((a.value? 'w').getD [])
      tell "nl" s!"invalid line number field width: '{given}'"
      return 1
    let (bs, status) ← readAll "nl" 1 a.operands
    let separator := (a.value? 's').getD ['\t']
    let form := (a.value? 'n').getD "rn".toList
    let counts := fun (l : Bytes) => style == ['a'] || (style == ['t'] && !l.isEmpty)
    let (_, out) := (lines bs).foldl (fun (n, out) l =>
      if counts l then
        (n + number 'i' 1, (lineNumber form width n ++ separator ++ l ++ ['\n']) :: out)
      else (n, (List.replicate (width + separator.length) ' ' ++ l ++ ['\n']) :: out))
      (number 'v' 1, [])
    output status out.reverse.flatten

/-! ### Parts of files -/

/-- The first lines of some bytes, with what ends them. -/
def takeLines (count : Nat) (bs : Bytes) : Bytes :=
  ((wholeLines bs).take count).flatten

/-- The number of lines, counting one without an end. -/
def lineCount (bs : Bytes) : Nat :=
  (lines bs).length

/-- The bytes behind the first lines. -/
def dropLines (count : Nat) (bs : Bytes) : Bytes :=
  ((wholeLines bs).drop count).flatten

/-- What a unit behind a count multiplies it by. -/
def unit? (cs : Bytes) : Option Nat :=
  match String.ofList cs with
  | "" => some 1
  | "b" => some 512
  | "k" | "K" | "KiB" => some 1024
  | "kB" | "KB" => some 1000
  | "m" | "M" | "MiB" => some 1048576
  | "MB" => some 1000000
  | "G" | "GiB" => some 1073741824
  | "GB" => some 1000000000
  | _ => none

/-- A count that may have a sign in front and a unit behind. -/
def count? (cs : Bytes) : Option (Option Char × Nat) := do
  let (sign, digits) := match cs with
    | '-' :: rest => (some '-', rest)
    | '+' :: rest => (some '+', rest)
    | cs => (none, cs)
  let n ← Text.digits? (digits.takeWhile Char.isDigit)
  return (sign, n * (← unit? (digits.dropWhile Char.isDigit)))

/-- Arguments of which the first one may be a number of lines behind a dash. -/
def withCounts : List Bytes → List Bytes
  | ('-' :: c :: cs) :: rest =>
    if (c :: cs).all Char.isDigit then ['-', 'n'] :: (c :: cs) :: rest
    else ('-' :: c :: cs) :: rest
  | args => args

/-- Prints a part of each file, behind its name if there are several. -/
def eachPart (tool : String) (a : Arguments) (part : Bytes → Bytes) : Eval Nat := do
  let (files, status) ← readEach tool 1 a.operands
  let shows := (1 < a.operands.length || a.has 'v') && !a.has 'q'
  let blocks := files.map fun (path, bs) =>
    let name := if path = ['-'] then "standard input".toList else path
    (if shows then "==> ".toList ++ name ++ " <==\n".toList else []) ++ part bs
  output status ((if shows then ['\n'] else []).intercalate blocks)

/-- Prints parts of files, as many lines or bytes as the last option of that kind says. -/
def printParts (tool : String) (a : Arguments)
    (part : (isBytes : Bool) → Option Char → Nat → Bytes → Bytes) : Eval Nat :=
  checked tool 1 a do
    let given := a.options.reverse.find? fun (c, _) => c == 'n' || c == 'c'
    let isBytes := given.any fun (c, _) => c == 'c'
    let text := (given.map Prod.snd).getD ['1', '0']
    let unit := if isBytes then "bytes" else "lines"
    match count? text with
    | none =>
      tell tool s!"invalid number of {unit}: '{Text.ofBytes text}'"
      return 1
    | some (sign, n) => eachPart tool a (part isBytes sign n)

/-- The long names of the options of `head` and `tail`. -/
def partOptions : List (String × Char) :=
  [("lines", 'n'), ("bytes", 'c'), ("quiet", 'q'), ("silent", 'q'), ("verbose", 'v')]

/-- Prints the first lines or bytes. -/
def head : Tool := fun _ args =>
  printParts "head" (arguments "qvz" "nc" partOptions (withCounts args))
    fun isBytes sign n bs => match isBytes, sign with
      | true, some '-' => bs.take (bs.length - n)
      | true, _ => bs.take n
      | false, some '-' => takeLines (lineCount bs - n) bs
      | false, _ => takeLines n bs

/-- Prints the last lines or bytes. -/
def tail : Tool := fun _ args =>
  printParts "tail" (arguments "qvfFz" "ncs" partOptions (withCounts args))
    fun isBytes sign n bs => match isBytes, sign with
      | true, some '+' => bs.drop (n - 1)
      | true, _ => bs.drop (bs.length - n)
      | false, some '+' => dropLines (n - 1) bs
      | false, _ => dropLines (lineCount bs - n) bs

/-! ### Counts -/

/-- The number of words between blanks. -/
def wordsIn (bs : Bytes) : Nat :=
  (bs.foldl (fun (n, inWord) c =>
    if isBlank c then (n, false) else (if inWord then n else n + 1, true)) (0, false)).1

/-- Counts lines, words and bytes. -/
def count : Tool := fun _ args =>
  let long := [("lines", 'l'), ("words", 'w'), ("bytes", 'c'), ("chars", 'm'),
    ("max-line-length", 'L')]
  let a := arguments "lwcmL" "" long args
  checked "wc" 1 a do
    let isStandard := a.operands.isEmpty || a.operands.contains ['-']
    let fromFile := ((← Eval.stream? 0).map fun (_, s) => match s.target with
      | .file _ => true
      | _ => false).getD false
    let (files, status) ← readEach "wc" 1 a.operands
    let all := !(a.has 'l' || a.has 'w' || a.has 'c' || a.has 'm' || a.has 'L')
    let counts := fun (bs : Bytes) =>
      (if all || a.has 'l' then [bs.count '\n'] else []) ++
      (if all || a.has 'w' then [wordsIn bs] else []) ++
      (if a.has 'm' then [bs.length] else []) ++
      (if all || a.has 'c' then [bs.length] else []) ++
      (if a.has 'L' then [((lines bs).map List.length).foldl max 0] else [])
    let isSingle := (counts []).length = 1 && a.operands.length ≤ 1
    let size := (files.map fun (_, bs) => bs.length).foldl (· + ·) 0
    let width := if isSingle then 1
      else if isStandard && !fromFile then 7 else (Nat.toDigits 10 size).length
    let row := fun (ns : List Nat) (name : Bytes) =>
      [' '].intercalate (ns.map (aligned width)) ++
        (if name.isEmpty then [] else ' ' :: name) ++ ['\n']
    let rows := files.map fun (path, bs) =>
      row (counts bs) (if a.operands.isEmpty then [] else path)
    let total := (files.map fun (_, bs) => counts bs).foldl
      (fun sums ns => if sums.isEmpty then ns else List.zipWith (· + ·) sums ns) []
    let last := if 1 < a.operands.length then [row total "total".toList] else []
    output status (rows ++ last).flatten

/-! ### Copies -/

/-- Prints the standard input and writes it to files. -/
def tee : Tool := fun _ args =>
  let a := arguments "ai" "" [("append", 'a')] args
  checked "tee" 1 a do
    let bs := (← Eval.readAll 0).getD []
    let status ← a.operands.foldlM (fun status path => do
      let fs := (← Eval.world).files
      if path = "/dev/null".toList then return status
      match fs.target (Text.ofBytes path) with
      | .ok names =>
        let w ← Eval.world
        let old := if a.has 'a' then w.fileBytes names else []
        putFile names (.ofBytes (old ++ bs))
        return status
      | .error cause =>
        tell "tee" s!"{Text.ofBytes path}: {cause.reason}"
        return 1) 0
    output status bs

end UseCase.Shell.Tool
