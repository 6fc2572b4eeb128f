import UseCase.Shell.Field
import UseCase.Shell.Format
import UseCase.Shell.Tool

/-!
# Tools for lines in order

`sort` puts lines in an order that may look at some of their parts only, `uniq` removes lines that
are equal to the one in front, and `comm` compares files whose lines are in order. Lines that no rule
tells apart are ordered by their bytes.
-/

namespace UseCase.Shell.Tool

open Text (Bytes)

/-! ### Orders -/

/-- The order of bytes; a text comes before its continuations. -/
def byteOrder : Bytes → Bytes → Ordering
  | [], [] => .eq
  | [], _ :: _ => .lt
  | _ :: _, [] => .gt
  | b :: bs, c :: cs => (compare b.toNat c.toNat).then (byteOrder bs cs)

/-- A decimal number as it is written: the digits in front of its point, without zeros at the start,
and those behind it, without zeros at the end. -/
structure Written where
  negative : Bool
  whole : Bytes
  part : Bytes

namespace Written

/-- The number at the start of a text, behind blanks; zero if there is none. -/
def ofText (cs : Bytes) : Written :=
  let (negative, cs) := match cs.dropWhile isBlank with
    | '-' :: rest => (true, rest)
    | cs => (false, cs)
  let whole := cs.takeWhile Char.isDigit
  let part := match cs.drop whole.length with
    | '.' :: rest => rest.takeWhile Char.isDigit
    | _ => []
  ⟨negative, whole.dropWhile (· == '0'), (part.reverse.dropWhile (· == '0')).reverse⟩

/-- Whether a number is zero. -/
def isZero (w : Written) : Bool :=
  w.whole.isEmpty && w.part.isEmpty

/-- The order of numbers without their signs. -/
def magnitudes (v w : Written) : Ordering :=
  (compare v.whole.length w.whole.length).then
    ((byteOrder v.whole w.whole).then (byteOrder v.part w.part))

/-- The order of numbers. -/
def order (v w : Written) : Ordering :=
  match v.negative && !v.isZero, w.negative && !w.isZero with
  | false, false => magnitudes v w
  | true, true => magnitudes w v
  | true, false => .lt
  | false, true => .gt

/-- The place of the unit behind a number among all units, below zero for a number below zero. -/
def unit (cs : Bytes) : Int :=
  let w := ofText cs
  let rest := (cs.dropWhile fun c => isBlank c || c == '-').dropWhile fun c =>
    c.isDigit || c == '.'
  let place := (rest.head?.bind fun c => "KMGTPEZYRQ".toList.idxOf? c.toUpper).elim 0 (· + 1)
  if w.isZero then 0 else if w.negative then -Int.ofNat place else place

end Written

/-- The number with a fraction and an exponent at the start of a text, as a quotient. -/
def quotient? (cs : Bytes) : Option (Int × Nat) :=
  let (negative, cs) := takeSign cs
  let whole := cs.takeWhile Char.isDigit
  let rest := cs.drop whole.length
  let part := match rest with
    | '.' :: rest => rest.takeWhile Char.isDigit
    | _ => []
  let rest := if rest.head? = some '.' then rest.drop (part.length + 1) else rest
  let power : Int := match rest with
    | mark :: rest =>
      let (below, digits) := match rest with
        | '-' :: digits => (true, digits)
        | '+' :: digits => (false, digits)
        | digits => (false, digits)
      let n := (Text.digits? (digits.takeWhile Char.isDigit)).getD 0
      if mark = 'e' ∨ mark = 'E' then if below then -Int.ofNat (min n 5000) else min n 5000 else 0
    | [] => 0
  let power := power - part.length
  (Text.digits? (whole ++ part)).map fun n =>
    let sign : Int := if negative then -1 else 1
    (sign * n * Nat.pow 10 power.toNat, Nat.pow 10 (-power).toNat)

/-- The order of quotients; what is no number comes first. -/
def quotientOrder : Option (Int × Nat) → Option (Int × Nat) → Ordering
  | none, none => .eq
  | none, some _ => .lt
  | some _, none => .gt
  | some (n, d), some (m, e) => compare (n * e) (m * d)

/-- The number of the month that a text begins with, zero if it is none. -/
def monthOf (cs : Bytes) : Nat :=
  let names := ["JAN", "FEB", "MAR", "APR", "MAY", "JUN", "JUL", "AUG", "SEP", "OCT", "NOV", "DEC"]
  let name := String.ofList (((cs.dropWhile isBlank).take 3).map Char.toUpper)
  (names.idxOf? name).elim 0 (· + 1)

/-- The rank of a byte among those that are no digits of a version. -/
def versionRank (c : Char) : Int :=
  if c.isAlpha then c.toNat else if c = '~' then -2 else c.toNat + 256

/-- The rank of what ends the letters of a version: its end, or a digit. -/
def versionEnd (rest : Bytes) : Int :=
  if rest.isEmpty then -1 else 0

/-- The order of the letters of versions, which are followed by something with a rank. -/
def letterOrder (u v : Int) : Bytes → Bytes → Ordering
  | [], [] => .eq
  | b :: _, [] => compare (versionRank b) v
  | [], c :: _ => compare u (versionRank c)
  | b :: bs, c :: cs => (compare (versionRank b) (versionRank c)).then (letterOrder u v bs cs)

/-- The order of versions: their letters and their numbers in turns. -/
def versionOrder : (fuel : Nat) → Bytes → Bytes → Ordering
  | 0, _, _ => .eq
  | fuel + 1, bs, cs =>
    if bs.isEmpty && cs.isEmpty then .eq
    else
      let letters := fun (cs : Bytes) => cs.takeWhile fun c => !c.isDigit
      let digits := fun (cs : Bytes) => (cs.takeWhile Char.isDigit).dropWhile (· == '0')
      let front := letters bs
      let other := letters cs
      let bs := bs.drop front.length
      let cs := cs.drop other.length
      ((letterOrder (versionEnd bs) (versionEnd cs) front other).then
        ((compare (digits bs).length (digits cs).length).then
          (byteOrder (digits bs) (digits cs)))).then
        (versionOrder fuel (bs.dropWhile Char.isDigit) (cs.dropWhile Char.isDigit))

/-- A file name without the endings behind points. -/
def stemOf (cs : Bytes) : Bytes :=
  let isEnding := fun (piece : Bytes) =>
    piece.head?.any (fun c => c.isAlpha || c == '~') && piece.all fun c => c.isAlphanum || c == '~'
  match Text.segments '.' cs with
  | [] => []
  | first :: rest => ['.'].intercalate (first :: (rest.reverse.dropWhile isEnding).reverse)

/-- What is compared in texts. -/
inductive Measure where
  | bytes
  | number
  /-- Numbers with an exponent. -/
  | general
  /-- Numbers with a unit. -/
  | sized
  | month
  | version
  deriving DecidableEq

/-- The order by a measure. -/
def Measure.order : Measure → Bytes → Bytes → Ordering
  | bytes, x, y => byteOrder x y
  | number, x, y => Written.order (.ofText x) (.ofText y)
  | general, x, y => quotientOrder (quotient? x) (quotient? y)
  | sized, x, y =>
    (compare (Written.unit x) (Written.unit y)).then (Written.order (.ofText x) (.ofText y))
  | month, x, y => compare (monthOf x) (monthOf y)
  | version, x, y =>
    let fuel := x.length + y.length + 1
    (versionOrder fuel (stemOf x) (stemOf y)).then (versionOrder fuel x y)

/-! ### Keys -/

/-- A rule for the comparison of texts. -/
structure Rule where
  measure : Measure
  reverse : Bool
  folds : Bool
  skipsBlanks : Bool
  /-- Whether only blanks, letters and digits count. -/
  isPlain : Bool
  /-- Whether only bytes that can be printed count. -/
  isPrintable : Bool
  deriving DecidableEq

namespace Rule

/-- The letters of all rules. -/
def letters : Bytes := "bdfghiMnrV".toList

/-- The rule that letters tell. -/
def ofLetters (cs : Bytes) : Rule where
  measure :=
    if cs.contains 'n' then .number else if cs.contains 'g' then .general
    else if cs.contains 'h' then .sized else if cs.contains 'M' then .month
    else if cs.contains 'V' then .version else .bytes
  reverse := cs.contains 'r'
  folds := cs.contains 'f'
  skipsBlanks := cs.contains 'b'
  isPlain := cs.contains 'd'
  isPrintable := cs.contains 'i'

/-- The order of texts by a rule. -/
def order (r : Rule) (x y : Bytes) : Ordering :=
  let counts := fun (c : Char) =>
    (!r.isPlain || isBlank c || c.isAlphanum) && (!r.isPrintable || (' ' ≤ c && c ≤ '~'))
  let view := fun (cs : Bytes) =>
    (cs.filter counts).map fun c => if r.folds then c.toUpper else c
  let o := r.measure.order (view x) (view y)
  if r.reverse then o.swap else o

end Rule

/-- The part of a line by which it is sorted: from a field and a byte in it up to others. -/
structure SortKey where
  first : Nat
  firstByte : Nat
  skipsFirst : Bool
  /-- The last field and the last byte in it, which is its end if it is zero. -/
  last : Option (Nat × Nat)
  skipsLast : Bool
  rule : Rule

namespace SortKey

/-- The key that is a whole line. -/
def whole (rule : Rule) : SortKey :=
  ⟨1, 1, rule.skipsBlanks, none, false, rule⟩

/-- Reads the numbers in front of a position in a key, and the letters behind them. -/
def position (cs : Bytes) : Option Nat × Option Nat × Bytes :=
  let field := cs.takeWhile Char.isDigit
  match cs.drop field.length with
  | '.' :: rest =>
    let byte := rest.takeWhile Char.isDigit
    (Text.digits? field, Text.digits? byte, rest.drop byte.length)
  | rest => (Text.digits? field, none, rest)

/-- Reads a key such as `2.1,3n`; it follows the given rule unless it tells one itself. -/
def ofText (common : Rule) (cs : Bytes) : Except String SortKey := do
  let shown := Text.ofBytes cs
  let (start, finish) := match Text.cut ',' cs with
    | some (start, finish) => (start, some finish)
    | none => (cs, none)
  let (field, byte, letters) := position start
  let last := finish.map position
  let more := (last.map fun (_, _, letters) => letters).getD []
  let first ← match field with
    | some 0 => throw s!"-: invalid field specification '{shown}'"
    | some n => pure n
    | none => throw s!"invalid number at field start: invalid count at start of '{shown}'"
  if !(letters ++ more).all Rule.letters.contains then
    throw s!"stray character in field spec: invalid field specification '{shown}'"
  let isOwn := !(letters ++ more).isEmpty
  return {
    first := first
    firstByte := max 1 (byte.getD 1)
    skipsFirst := if isOwn then letters.contains 'b' else common.skipsBlanks
    last := last.map fun (field, byte, _) => (field.getD 1, byte.getD 0)
    skipsLast := if isOwn then more.contains 'b' else common.skipsBlanks
    rule := if isOwn then Rule.ofLetters (letters ++ more) else common }

/-- What follows the first fields of a line; the separator behind them belongs to them. -/
def skipFields (separator : Option Char) : (count : Nat) → Bytes → Bytes
  | 0, cs => cs
  | count + 1, cs =>
    skipFields separator count <| match separator with
      | some c => (cs.dropWhile (· != c)).drop 1
      | none => (cs.dropWhile isBlank).dropWhile fun c => !isBlank c

/-- What follows the last field of a key. -/
def behind (separator : Option Char) (field byte : Nat) (skips : Bool) (cs : Bytes) : Bytes :=
  let atField := skipFields separator (field - 1) cs
  if byte = 0 then match separator with
    | some c => atField.dropWhile (· != c)
    | none => skipFields none 1 atField
  else (if skips then atField.dropWhile isBlank else atField).drop byte

/-- The part of a line that a key names. -/
def part (k : SortKey) (separator : Option Char) (l : Bytes) : Bytes :=
  let atField := skipFields separator (k.first - 1) l
  let front := (if k.skipsFirst then atField.dropWhile isBlank else atField).drop (k.firstByte - 1)
  match k.last with
  | none => front
  | some (field, byte) =>
    front.take (front.length - (behind separator field byte k.skipsLast l).length)

/-- The order of lines by keys, the earlier ones first. -/
def order (separator : Option Char) : List SortKey → Bytes → Bytes → Ordering
  | [], _, _ => .eq
  | k :: ks, x, y =>
    (k.rule.order (k.part separator x) (k.part separator y)).then (order separator ks x y)

end SortKey

/-! ### Sorting -/

/-- Lines without those that equal the one in front. -/
def dropEqual (same : Bytes → Bytes → Bool) (ls : List Bytes) : List Bytes :=
  (ls.foldl (fun kept l => match kept with
    | k :: _ => if same k l then kept else l :: kept
    | [] => [l]) []).reverse

/-- The number of the first line that may not follow the one in front, and the line. -/
def disorder? (mayFollow : Bytes → Bytes → Bool) (ls : List Bytes) : Option (Nat × Bytes) :=
  (((ls.zip (ls.drop 1)).zipIdx 2).find? fun ((x, y), _) => !mayFollow x y).map
    fun ((_, y), n) => (n, y)

/-- The separator that an argument of `sort` names. -/
def separatorOf (cs : Bytes) : Except String Char :=
  match cs with
  | [c] => .ok c
  | ['\\', '0'] => .ok '\x00'
  | [] => .error "empty tab"
  | cs => .error s!"multi-character tab '{Text.ofBytes cs}'"

/-- What `sort` is asked. -/
structure Sorting where
  separator : Option Char
  keys : List SortKey
  /-- Whether lines that the keys do not tell apart stay as they are, or else are in reverse. -/
  isStable : Bool
  reverse : Bool

/-- What arguments ask `sort`. -/
def Sorting.ofArguments (a : Arguments) : Except String Sorting := do
  let common := Rule.ofLetters (a.options.map Prod.fst)
  let separator ← match a.value? 't' with
    | some cs => (separatorOf cs).map some
    | none => .ok none
  let keys ← (a.values 'k').mapM (SortKey.ofText common)
  let isPlain := { common with reverse := false } == Rule.ofLetters []
  return {
    separator := separator
    keys := if keys.isEmpty && !isPlain then [.whole common] else keys
    isStable := a.has 's' || a.has 'u'
    reverse := a.has 'r' }

/-- The order that is asked for. -/
def Sorting.order (s : Sorting) (x y : Bytes) : Ordering :=
  let last := if s.isStable && !s.keys.isEmpty then .eq
    else if s.reverse then byteOrder y x else byteOrder x y
  (SortKey.order s.separator s.keys x y).then last

/-- Sorts lines. -/
def sort : Tool := fun _ args =>
  let long := [("reverse", 'r'), ("unique", 'u'), ("numeric-sort", 'n'), ("ignore-case", 'f'),
    ("ignore-leading-blanks", 'b'), ("dictionary-order", 'd'), ("general-numeric-sort", 'g'),
    ("human-numeric-sort", 'h'), ("ignore-nonprinting", 'i'), ("month-sort", 'M'),
    ("version-sort", 'V'), ("stable", 's'), ("check", 'c'), ("zero-terminated", 'z'),
    ("merge", 'm'), ("key", 'k'), ("field-separator", 't'), ("output", 'o')]
  let a := arguments "rnufbscCghVdizMm" "ktoST" long args
  checked "sort" 2 a do
    match Sorting.ofArguments a with
    | .error text =>
      tell "sort" text
      return 2
    | .ok s =>
      let (bs, status) ← readAll "sort" 2 a.operands
      if status != 0 then return status
      let ending := if a.has 'z' then '\x00' else '\n'
      let given := linesBy ending bs
      if a.has 'c' || a.has 'C' then
        let mayFollow := fun (x y : Bytes) => match s.order x y with
          | .lt => true
          | .eq => !a.has 'u'
          | .gt => false
        match disorder? mayFollow given with
        | none => return 0
        | some (n, l) =>
          let name := Text.ofBytes (a.operands.headD ['-'])
          unless a.has 'C' do tell "sort" s!"{name}:{n}: disorder: {Text.ofBytes l}"
          return 1
      let ls := given.mergeSort fun x y => s.order x y != .gt
      let ls := if a.has 'u' then dropEqual (fun x y => s.order x y == .eq) ls else ls
      match a.value? 'o' with
      | none => output status (unlinesBy ending ls)
      | some path =>
        writeFile "sort" status 2 (fun path reason => s!"open failed: {path}: {reason}") path
          (unlinesBy ending ls)

/-! ### Lines in a row -/

/-- Runs of lines that are the same, in order. -/
def runs (same : Bytes → Bytes → Bool) (ls : List Bytes) : List (List Bytes) :=
  ls.foldr (fun l rs => match rs with
    | (m :: run) :: rest => if same l m then (l :: m :: run) :: rest else [l] :: rs
    | rs => [l] :: rs) []

/-- Prints equal lines in a row once. -/
def unique : Tool := fun _ args =>
  let long := [("count", 'c'), ("repeated", 'd'), ("unique", 'u'), ("all-repeated", 'D'),
    ("ignore-case", 'i'), ("skip-fields", 'f'), ("skip-chars", 's'), ("check-chars", 'w'),
    ("zero-terminated", 'z')]
  let a := arguments "cduiDz" "fsw" long args
  checked "uniq" 1 a do
    let (bs, status) ← readAll "uniq" 1 (a.operands.take 1)
    if status != 0 then return status
    let number := fun (c : Char) => (a.value? c).bind Text.digits?
    let view := fun (l : Bytes) =>
      let l := (SortKey.skipFields none ((number 'f').getD 0) l).drop ((number 's').getD 0)
      let l := match number 'w' with
        | some n => l.take n
        | none => l
      if a.has 'i' then l.map Char.toLower else l
    let ending := if a.has 'z' then '\x00' else '\n'
    let kept := (runs (fun x y => view x == view y) (linesBy ending bs)).filter fun run =>
      (!(a.has 'd' || a.has 'D') || 1 < run.length) && (!a.has 'u' || run.length = 1)
    let text := unlinesBy ending (kept.flatMap fun run =>
      if a.has 'D' then run
      else (run.take 1).map fun l => if a.has 'c' then aligned 7 run.length ++ ' ' :: l else l)
    match a.operands[1]? with
    | none => output status text
    | some path =>
      if path = ['-'] then output status text
      else writeFile "uniq" status 1 (fun path reason => s!"{path}: {reason}") path text

/-! ### Comparing -/

/-- The lines of two files in order, each with its column: only in the first, only in the second, or
in both. -/
def mergedColumns : (fuel : Nat) → List Bytes → List Bytes → List (Nat × Bytes)
  | 0, _, _ => []
  | _, xs, [] => xs.map fun x => (0, x)
  | _, [], ys => ys.map fun y => (1, y)
  | fuel + 1, x :: xs, y :: ys =>
    match byteOrder x y with
    | .lt => (0, x) :: mergedColumns fuel xs (y :: ys)
    | .gt => (1, y) :: mergedColumns fuel (x :: xs) ys
    | .eq => (2, x) :: mergedColumns fuel xs ys

/-- Prints the lines of two files in three columns. -/
def compareOrdered : Tool := fun _ args =>
  let a := arguments "123z" "o" [("output-delimiter", 'o'), ("zero-terminated", 'z')] args
  checked "comm" 1 a do
    match a.operands with
    | [x, y] =>
      let (files, status) ← readEach "comm" 1 [x, y]
      match files with
      | [(_, bs), (_, cs)] =>
        let joint := (a.value? 'o').getD ['\t']
        let isShown := fun (column : Nat) => match column with
          | 0 => !a.has '1'
          | 1 => !a.has '2'
          | _ => !a.has '3'
        let front := fun (column : Nat) =>
          ((List.range column).filter isShown).flatMap fun _ => joint
        let rows := mergedColumns (bs.length + cs.length + 2) (lines bs) (lines cs)
        let shown := rows.filter fun (column, _) => isShown column
        let printed ← output status (unlines (shown.map fun (column, l) => front column ++ l))
        let number? := if (disorder? (fun x y => byteOrder x y != .gt) (lines bs)).isSome then some 1
          else if (disorder? (fun x y => byteOrder x y != .gt) (lines cs)).isSome then some 2
          else none
        match number? with
        | none => return printed
        | some n =>
          tell "comm" s!"file {n} is not in sorted order"
          tell "comm" "input is not in sorted order"
          return 1
      | _ => return status
    | [] => misuse "comm" 1 "missing operand"
    | [x] => misuse "comm" 1 s!"missing operand after '{Text.ofBytes x}'"
    | _ :: _ :: z :: _ => misuse "comm" 1 s!"extra operand '{Text.ofBytes z}'"

end UseCase.Shell.Tool
