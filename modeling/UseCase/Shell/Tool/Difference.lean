import UseCase.Shell.Field
import UseCase.Shell.Format
import UseCase.Shell.Tool

/-!
# Differences of files

`cmp` finds the first byte in which two files differ, and `diff` tells by which changes of lines one
file becomes the other one. As many lines as possible stay as they are.
-/

namespace UseCase.Shell.Tool

open Text (Bytes)

/-! ### Bytes -/

/-- Tells that a tool was called wrongly, with its name in front of both lines. -/
def misuseTwice (tool text : String) : Eval Nat := do
  tell tool text
  tell tool s!"Try '{tool} --help' for more information."
  return 2

/-- How the end of a file that is shorter than another one is told. -/
def shortEnd (name : String) (bs : Bytes) (brief : Bool) : String :=
  if bs.isEmpty then s!"EOF on {name} which is empty"
  else
    let count := bs.count '\n'
    let place := if brief then ""
      else if bs.getLast? = some '\n' then s!", line {count}"
      else s!", in line {count + 1}"
    s!"EOF on {name} after byte {bs.length}{place}"

/-- A byte in octal, with blanks in front. -/
def octal (c : Char) : Bytes :=
  let digits := Nat.toDigits 8 c.toNat
  List.replicate (3 - digits.length) ' ' ++ digits

/-- Compares two files byte by byte. -/
def compareFiles : Tool := fun _ args => do
  let long := [("silent", 's'), ("quiet", 's'), ("verbose", 'l'), ("bytes", 'n'),
    ("ignore-initial", 'i')]
  let a := arguments "sl" "ni" long args
  if let some text := a.fault then return ← misuseTwice "cmp" text
  match a.operands with
  | [] => misuseTwice "cmp" "missing operand after 'cmp'"
  | x :: rest =>
    let y := rest.headD ['-']
    let complain := fun (path : Bytes) (cause : SystemFault) =>
      unless a.has 's' do tell "cmp" s!"{Text.ofBytes path}: {cause.reason}"
    match ← read x with
    | .error cause =>
      complain x cause
      return 2
    | .ok bs =>
      match ← read y with
      | .error cause =>
        complain y cause
        return 2
      | .ok cs =>
        let skipped := ((a.value? 'i').bind Text.digits?).getD 0
        let most := ((a.value? 'n').bind Text.digits?).getD (max bs.length cs.length)
        let bs := (bs.drop skipped).take most
        let cs := (cs.drop skipped).take most
        if bs == cs then return 0
        if a.has 's' then return 1
        let pairs := (bs.zip cs).zipIdx 1
        let short := if bs.length ≤ cs.length then x else y
        let tellEnd := if bs.length = cs.length then pure ()
          else tell "cmp" (shortEnd (Text.ofBytes short)
            (if bs.length ≤ cs.length then bs else cs) (a.has 'l'))
        if a.has 'l' then
          let width := (Nat.toDigits 10 (max bs.length cs.length)).length
          let rows := pairs.filter fun ((b, c), _) => b != c
          let _ ← output 1 (rows.flatMap fun ((b, c), n) =>
            aligned width n ++ ' ' :: octal b ++ ' ' :: octal c ++ ['\n'])
          tellEnd
          return 1
        match pairs.find? fun ((b, c), _) => b != c with
        | some (_, n) =>
          let line := (bs.take (n - 1)).count '\n' + 1
          let names := Text.ofBytes x ++ " " ++ Text.ofBytes y
          output 1 (Text.bytes s!"{names} differ: char {n}, line {line}\n")
        | none =>
          tellEnd
          return 1

/-! ### Lines -/

/-- A step from one list of lines to another one. -/
inductive LineStep where
  | keep
  | remove
  | add
  deriving DecidableEq

/-- The numbers of lines that can be kept from each line of a row on, given those of the next row. -/
def keptRow (same : Bytes → Bytes → Bool) (x : Bytes) : (ys : List Bytes) → (below : List Nat) → List Nat
  | y :: ys, n :: below =>
    let row := keptRow same x ys below
    let here := if same x y then below.headD 0 + 1 else max n (row.headD 0)
    here :: row
  | _, _ => [0]

/-- The rows for all lines, the first one in front. -/
def keptRows (same : Bytes → Bytes → Bool) (ys : List Bytes) : List Bytes → List (List Nat)
  | [] => [ys.map (fun _ => 0) ++ [0]]
  | x :: xs =>
    let rows := keptRows same ys xs
    keptRow same x ys (rows.headD []) :: rows

/-- The steps that keep as many lines as possible; lines are removed before others are added. -/
def lineSteps (same : Bytes → Bytes → Bool) :
    (fuel : Nat) → (xs ys : List Bytes) → (rows : List (List Nat)) → List LineStep
  | 0, _, _, _ => []
  | _, xs, [], _ => xs.map fun _ => .remove
  | _, [], ys, _ => ys.map fun _ => .add
  | fuel + 1, x :: xs, y :: ys, rows =>
    let next := rows.drop 1
    if same x y then .keep :: lineSteps same fuel xs ys (next.map (List.drop 1))
    else
      let down := (next.headD []).headD 0
      let right := ((rows.headD []).drop 1).headD 0
      if right ≤ down then .remove :: lineSteps same fuel xs (y :: ys) next
      else .add :: lineSteps same fuel (x :: xs) ys (rows.map (List.drop 1))

/-- A change of lines: how many there were in front of it on both sides, and the lines. -/
structure Hunk where
  first : Nat
  second : Nat
  removed : List Bytes
  added : List Bytes

/-- The changes that steps make. -/
def hunks : List LineStep → (first second : Nat) → (xs ys : List Bytes) → Option Hunk → List Hunk
  | [], _, _, _, _, h => h.toList
  | .keep :: rest, i, j, xs, ys, h =>
    h.toList ++ hunks rest (i + 1) (j + 1) (xs.drop 1) (ys.drop 1) none
  | .remove :: rest, i, j, xs, ys, h =>
    let h := h.getD ⟨i, j, [], []⟩
    hunks rest (i + 1) j (xs.drop 1) ys (some { h with removed := h.removed ++ xs.take 1 })
  | .add :: rest, i, j, xs, ys, h =>
    let h := h.getD ⟨i, j, [], []⟩
    hunks rest i (j + 1) xs (ys.drop 1) (some { h with added := h.added ++ ys.take 1 })

/-- The lines between two numbers of a change. -/
def Hunk.range (before count : Nat) : String :=
  if count = 0 then toString before
  else if count = 1 then toString (before + 1)
  else s!"{before + 1},{before + count}"

/-- The text of a change. -/
def Hunk.text (h : Hunk) : Bytes :=
  let letter := if h.removed.isEmpty then "a" else if h.added.isEmpty then "d" else "c"
  let shown := fun (mark : Char) (l : Bytes) =>
    mark :: ' ' :: l ++
      if l.getLast? = some '\n' then [] else "\n\\ No newline at end of file\n".toList
  Text.bytes (Hunk.range h.first h.removed.length ++ letter ++
      Hunk.range h.second h.added.length ++ "\n") ++
    h.removed.flatMap (shown '<') ++
    (if letter == "c" then "---\n".toList else []) ++ h.added.flatMap (shown '>')

/-- A line as far as it counts for a comparison. -/
def lineView (a : Arguments) (l : Bytes) : Bytes :=
  let l := if a.has 'i' then l.map Char.toLower else l
  if a.has 'w' then l.filter fun c => !isBlank c
  else if a.has 'b' then
    let ws := (l.foldr (fun c cs =>
      if isBlank c then if cs.head? == some ' ' then cs else ' ' :: cs else c :: cs) [])
    (ws.reverse.dropWhile (· == ' ')).reverse
  else l

/-- Tells how two files differ. -/
def tellDifference (a : Arguments) (header : Bytes) (x y bs cs : Bytes) : Eval Nat := do
  let names := Text.ofBytes x ++ " and " ++ Text.ofBytes y
  let same := fun (l m : Bytes) => lineView a l == lineView a m
  let xs := wholeLines bs
  let ys := wholeLines cs
  let steps := lineSteps same (xs.length + ys.length + 1) xs ys (keptRows same ys xs)
  let found := hunks steps 0 0 xs ys none
  let found := if a.has 'B' then
      found.filter fun h => (h.removed ++ h.added).any fun l => l != ['\n']
    else found
  if bs == cs || found.isEmpty then
    if a.has 's' then output 0 (Text.bytes s!"Files {names} are identical\n")
    else return 0
  else if a.has 'q' then output 1 (Text.bytes s!"Files {names} differ\n")
  else output 1 (header ++ found.flatMap Hunk.text)

/-- Tells how two files or directories differ. -/
def differ (a : Arguments) (options : Bytes) : (depth : Nat) → (isInner : Bool) → Bytes → Bytes → Eval Nat
  | 0, _, _, _ => return 2
  | depth + 1, isInner, x, y => do
    let fs := (← Eval.world).files
    match fs.isDirectory (Text.ofBytes x), fs.isDirectory (Text.ofBytes y) with
    | true, true =>
      if isInner && !a.has 'r' then
        let names := Text.ofBytes x ++ " and " ++ Text.ofBytes y
        output 0 (Text.bytes s!"Common subdirectories: {names}\n")
      else
        let namesIn := fun (path : Bytes) => match fs.find (Text.ofBytes path) with
          | .ok t => t.children.map fun (name, _) => name.bytes
          | .error _ => []
        let xs := namesIn x
        let ys := namesIn y
        let all := Pattern.sorted (xs ++ ys.filter fun n => !xs.contains n)
        all.foldlM (fun status name => do
          let only := fun (path : Bytes) =>
            output 1 ("Only in ".toList ++ path ++ ": ".toList ++ name ++ ['\n'])
          let result ← match xs.contains name, ys.contains name with
            | true, true => differ a options depth true (joinPath x name) (joinPath y name)
            | true, false => only x
            | _, _ => only y
          return max status result) 0
    | true, false => if isInner then return 1 else differ a options depth false (joinPath x (fileName y)) y
    | false, true => if isInner then return 1 else differ a options depth false x (joinPath y (fileName x))
    | false, false =>
      let (files, status) ← readEach "diff" 2 [x, y]
      match files with
      | [(_, bs), (_, cs)] =>
        let header := if isInner then
            "diff".toList ++ options ++ ' ' :: x ++ ' ' :: y ++ ['\n']
          else []
        tellDifference a header x y bs cs
      | _ => return status

/-- Tells by which changes of lines a file becomes another one. -/
def difference : Tool := fun _ args => do
  let long := [("brief", 'q'), ("report-identical-files", 's'), ("ignore-case", 'i'),
    ("ignore-space-change", 'b'), ("ignore-all-space", 'w'), ("ignore-blank-lines", 'B'),
    ("recursive", 'r'), ("text", 'a'), ("new-file", 'N')]
  let a := arguments "qsibwBraN" "" long args
  if let some text := a.fault then return ← misuseTwice "diff" text
  let options := (args.filter fun arg => arg.head? == some '-' && arg != ['-']).flatMap (' ' :: ·)
  match a.operands with
  | [x, y] => differ a options 100 false x y
  | [] => misuseTwice "diff" "missing operand after 'diff'"
  | [x] => misuseTwice "diff" s!"missing operand after '{Text.ofBytes x}'"
  | _ :: _ :: z :: _ => misuseTwice "diff" s!"extra operand '{Text.ofBytes z}'"

end UseCase.Shell.Tool
