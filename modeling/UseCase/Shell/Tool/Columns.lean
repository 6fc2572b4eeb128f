import UseCase.Shell.Field
import UseCase.Shell.Format
import UseCase.Shell.Tool

/-!
# Tools for columns

Tools that take lines apart or put them together: `cut` prints some of their bytes or fields, `paste`
joins lines side by side, `fold` breaks long ones, and `expand` and `unexpand` change tabs into blanks
and back.
-/

namespace UseCase.Shell.Tool

open Text (Bytes)

/-! ### Selection -/

/-- Bounds of numbers that are selected, from one on. -/
structure Span where
  low : Nat
  /-- The greatest number, if there is one. -/
  high : Option Nat

/-- What is selected, for messages. -/
inductive Selected where
  | fields
  | places
  deriving DecidableEq

/-- The complaint about a number that is none. -/
def Selected.wrong (s : Selected) (piece : Bytes) : String :=
  let shown := Text.ofBytes piece
  match s with
  | .fields => s!"invalid field value '{shown}'"
  | .places => s!"invalid byte/character position '{shown}'"

/-- The complaint about a zero. -/
def Selected.zero : Selected → String
  | .fields => "fields are numbered from 1"
  | .places => "byte/character positions are numbered from 1"

/-- Reads the bounds between the commas of a list such as `1,3-5,7-`. -/
def Span.ofText (s : Selected) (piece : Bytes) : Except String Span := do
  let number := fun (cs : Bytes) => match Text.digits? cs with
    | some 0 => Except.error s.zero
    | some n => .ok n
    | none => .error (if cs.isEmpty then s.zero else s.wrong piece)
  match Text.cut '-' piece with
  | none => do
    let n ← number piece
    return ⟨n, some n⟩
  | some ([], []) => throw "invalid range with no endpoint: -"
  | some (low, []) => return ⟨← number low, none⟩
  | some ([], high) => return ⟨1, some (← number high)⟩
  | some (low, high) =>
    let low ← number low
    let high ← number high
    if high < low then throw "invalid decreasing range"
    return ⟨low, some high⟩

/-- Whether a number lies within one of some bounds. -/
def isWithin (spans : List Span) (n : Nat) : Bool :=
  spans.any fun s => s.low ≤ n && s.high.all (n ≤ ·)

/-- The elements whose numbers, from one on, lie within bounds, in groups without gaps; a group that
begins where another of the bounds does stands alone. -/
def selected {α : Type} (spans : List Span) (isWanted : Bool) (xs : List α) : List (List α) :=
  let starts := fun (n : Nat) => isWanted && spans.any fun s => s.low == n &&
    !spans.any fun t => t.low < n && t.high.all (n ≤ ·)
  let step := fun (x : α × Nat) (groups : List (List α) × Bool) =>
    let n := x.2 + 1
    if isWithin spans n != isWanted then (groups.1, false)
    else match groups with
      | (g :: gs, true) => ((x.1 :: g) :: gs, !starts n)
      | (gs, _) => ([x.1] :: gs, !starts n)
  (xs.zipIdx.foldr step ([], false)).1

/-- What is wrong about the options of `cut`. -/
def cutFault? (a : Arguments) : Option String :=
  let lists := a.options.filter fun (c, _) => ['b', 'c', 'f'].contains c
  match lists with
  | [] => some "you must specify a list of bytes, characters, or fields"
  | _ :: _ :: _ => some "only one list may be specified"
  | [(letter, _)] =>
    if (a.value? 'd').any fun cs => 1 < cs.length then
      some "the delimiter must be a single character"
    else if letter == 'f' then none
    else if a.has 'd' then
      some "an input delimiter may be specified only when operating on fields"
    else if a.has 's' then
      some "suppressing non-delimited lines makes sense\n\tonly when operating on fields"
    else none

/-- Prints some bytes or fields of each line. -/
def cut : Tool := fun _ args =>
  let long := [("delimiter", 'd'), ("fields", 'f'), ("characters", 'c'), ("bytes", 'b'),
    ("only-delimited", 's'), ("complement", 'C'), ("output-delimiter", 'o'),
    ("zero-terminated", 'z')]
  let a := arguments "snCz" "dfcbo" long args
  checked "cut" 1 { a with fault := a.fault.or (cutFault? a) } do
    let kind := if a.has 'f' then Selected.fields else .places
    let list := (((a.value? 'f').or (a.value? 'c')).or (a.value? 'b')).getD []
    let pieces := (Text.segments ',' list).flatMap (Text.segments ' ')
    match pieces.mapM (Span.ofText kind) with
    | .error text => misuse "cut" 1 text
    | .ok spans =>
      let (bs, status) ← readAll "cut" 1 a.operands
      let isWanted := !a.has 'C'
      let ending := if a.has 'z' then '\x00' else '\n'
      let ls := linesBy ending bs
      if kind = .places then
        let joint := (a.value? 'o').getD []
        output status (unlinesBy ending (ls.map fun l =>
          joint.intercalate (selected spans isWanted l)))
      else
        let separator := ((a.value? 'd').map fun cs => cs.headD '\x00').getD '\t'
        let joint := (a.value? 'o').getD [separator]
        output status (unlinesBy ending (ls.filterMap fun l =>
          if l.contains separator then
            let fields := selected spans isWanted (Text.segments separator l)
            some (joint.intercalate fields.flatten)
          else if a.has 's' then none else some l))

/-! ### Lines side by side -/

/-- The texts that a list of delimiters stands for; a zero behind a backslash stands for none. -/
def delimiters : (fuel : Nat) → Bytes → List Bytes
  | 0, _ | _, [] => []
  | fuel + 1, '\\' :: '0' :: rest => [] :: delimiters fuel rest
  | fuel + 1, '\\' :: c :: rest =>
    let (d, _) := escape [c]
    (if d = '\\' then [c] else [d]) :: delimiters fuel rest
  | fuel + 1, c :: rest => [c] :: delimiters fuel rest

/-- Texts with delimiters between them, which are used in turns. -/
def joinedBy (ds : List Bytes) : (index : Nat) → List Bytes → Bytes
  | _, [] => []
  | _, [l] => l
  | index, l :: rest =>
    l ++ (ds[index % max 1 ds.length]?).getD [] ++ joinedBy ds (index + 1) rest

/-- Lists of which the first takes every `count`-th element from the first on, and so on. -/
def dealt {α : Type} (count : Nat) (xs : List α) : List (List α) :=
  (List.range count).map fun i =>
    (xs.zipIdx.filter fun (_, j) => j % count == i).map Prod.fst

/-- Joins the lines of files side by side, or those of each file. -/
def paste : Tool := fun _ args =>
  let long := [("serial", 's'), ("delimiters", 'd'), ("zero-terminated", 'z')]
  let a := arguments "sz" "d" long args
  checked "paste" 1 a do
    let paths := if a.operands.isEmpty then [['-']] else a.operands
    let ds := match a.value? 'd' with
      | some cs => if cs.isEmpty then [[]] else delimiters (cs.length + 1) cs
      | none => [['\t']]
    let isStandard := fun (path : Bytes) => path == ['-']
    let named := paths.filter (!isStandard ·)
    let (files, status) ← if named.isEmpty then pure ([], 0) else readEach "paste" 1 named
    if status != 0 then return status
    let count := (paths.filter isStandard).length
    let input ← if count = 0 then pure [] else do pure (lines ((← Eval.readAll 0).getD []))
    -- Each mention of the standard input takes its lines in turns.
    let shares := if a.has 's' then [input] else dealt count input
    let (columns, _, _) := paths.foldl (fun (columns, files, shares) path =>
      if isStandard path then (columns ++ [shares.headD []], files, shares.drop 1)
      else (columns ++ (files.take 1).map fun (_, bs) => lines bs, files.drop 1, shares))
      (([] : List (List Bytes)), files, shares)
    if a.has 's' then output status (unlines (columns.map (joinedBy ds 0)))
    else
      let height := (columns.map List.length).foldl max 0
      output status (unlines ((List.range height).map fun i =>
        joinedBy ds 0 (columns.map fun ls => (ls[i]?).getD [])))

/-! ### Widths -/

/-- The column behind a byte in some column. -/
def columnAfter (isBytes : Bool) (column : Nat) (c : Char) : Nat :=
  if isBytes then column + 1
  else match c with
    | '\x08' => column - 1
    | '\r' => 0
    | '\t' => column + 8 - column % 8
    | _ => column + 1

/-- The column behind a text that starts a line. -/
def columnOf (isBytes : Bool) (cs : Bytes) : Nat :=
  cs.foldl (columnAfter isBytes) 0

/-- A line that is being broken: the pieces that are done, the latest first, and the one under way in
reverse. -/
structure Folding where
  done : List Bytes
  piece : Bytes

/-- Adds a byte to a line that is broken at a width, behind blanks if that is asked for. -/
def Folding.add (width : Nat) (isBytes atBlanks : Bool) (f : Folding) (c : Char) : Folding :=
  let fits := fun (piece : Bytes) =>
    piece.isEmpty || columnAfter isBytes (columnOf isBytes piece.reverse) c ≤ width
  if fits f.piece then { f with piece := c :: f.piece }
  else
    let isGap := fun (d : Char) => d == ' ' || d == '\t'
    let word := f.piece.takeWhile fun d => !isGap d
    if atBlanks && word.length < f.piece.length then
      let front := f.piece.drop word.length
      if fits word then ⟨front.reverse :: f.done, c :: word⟩
      else ⟨word.reverse :: front.reverse :: f.done, [c]⟩
    else ⟨f.piece.reverse :: f.done, [c]⟩

/-- Prints lines broken at a width. -/
def fold : Tool := fun _ args =>
  let long := [("width", 'w'), ("bytes", 'b'), ("spaces", 's')]
  let a := arguments "sb" "w" long args
  checked "fold" 1 a do
    let text := (a.value? 'w').getD ['8', '0']
    let shown := Text.ofBytes text
    match Text.digits? text with
    | none =>
      tell "fold" s!"invalid number of columns: '{shown}'"
      return 1
    | some 0 =>
      tell "fold" s!"invalid number of columns: '{shown}': Numerical result out of range"
      return 1
    | some width =>
      let (bs, status) ← readAll "fold" 1 a.operands
      output status ((wholeLines bs).flatMap fun l =>
        let isWhole := l.getLast? == some '\n'
        let cs := if isWhole then l.dropLast else l
        let f := cs.foldl (Folding.add width (a.has 'b') (a.has 's')) ⟨[], []⟩
        ['\n'].intercalate (f.piece.reverse :: f.done).reverse ++ if isWhole then ['\n'] else [])

/-! ### Tabs -/

/-- Where tabs lead: to given columns, and behind them to the next one, or to all multiples of a
width. -/
inductive TabStops where
  | every (width : Nat)
  | at (columns : List Nat)

/-- The column where a tab in some column leads. -/
def TabStops.next (t : TabStops) (column : Nat) : Nat :=
  match t with
  | every width => column + width - column % max 1 width
  | .at columns => (columns.find? fun n => column < n).getD (column + 1)

/-- Whether a column is one where tabs lead. -/
def TabStops.contains (t : TabStops) (column : Nat) : Bool :=
  match t with
  | every width => column % max 1 width == 0
  | .at columns => columns.contains column

/-- Reads where tabs lead. -/
def TabStops.ofText (cs : Bytes) : Except String TabStops := do
  let pieces := ((Text.segments ',' cs).flatMap (Text.segments ' ')).filter (· != [])
  let numbers ← pieces.mapM fun piece => match Text.digits? piece with
    | some 0 => throw "tab size cannot be 0"
    | some n => pure n
    | none => throw s!"tab size contains invalid character(s): '{Text.ofBytes piece}'"
  match numbers with
  | [] => return every 8
  | [n] => return every n
  | ns =>
    if (ns.zip (ns.drop 1)).any fun (m, n) => n ≤ m then throw "tab sizes must be ascending"
    return .at ns

/-- A line with blanks in place of tabs, all of them or those in front of anything else. -/
def expanded (t : TabStops) (onlyFirst : Bool) (column : Nat) : Bytes → Bytes
  | [] => []
  | c :: rest =>
    if c = '\t' then
      let next := t.next column
      List.replicate (next - column) ' ' ++ expanded t onlyFirst next rest
    else if c = ' ' then c :: expanded t onlyFirst (column + 1) rest
    else if onlyFirst then c :: rest
    else c :: expanded t onlyFirst (if c = '\x08' then column - 1 else column + 1) rest

/-- Blanks from one column to another one as tabs, as far as they lead to stops. A single blank that
leads to one stays a blank at the end. -/
def tabbed (t : TabStops) : (fuel : Nat) → (column goal : Nat) → Bytes
  | 0, _, _ => []
  | fuel + 1, column, goal =>
    let next := t.next column
    if goal ≤ column then []
    else if next ≤ goal ∧ !(next = column + 1 ∧ goal = next) then
      '\t' :: tabbed t fuel next goal
    else List.replicate (goal - column) ' '

/-- A line with tabs in place of blanks, of all of them or those in front of anything else. -/
def unexpanded (t : TabStops) (all : Bool) : (fuel : Nat) → (column : Nat) → Bytes → Bytes
  | 0, _, cs => cs
  | fuel + 1, column, cs =>
    let isGap := fun (c : Char) => c == ' ' || c == '\t'
    let gap := cs.takeWhile isGap
    let goal := gap.foldl (fun n c => if c = '\t' then t.next n else n + 1) column
    let front := if gap.contains '\t' && goal == column + 1 then gap
      else tabbed t (gap.length + goal + 1) column goal
    match cs.drop gap.length with
    | [] => front
    | c :: rest =>
      if all then front ++ c :: unexpanded t all fuel (goal + 1) rest else front ++ c :: rest

/-- Runs something on each line of files. -/
def onLines (tool : String) (a : Arguments) (f : TabStops → Bytes → Bytes) : Eval Nat :=
  checked tool 1 a do
    match TabStops.ofText ((a.value? 't').getD ['8']) with
    | .error text =>
      tell tool text
      return 1
    | .ok t =>
      let (bs, status) ← readAll tool 1 a.operands
      output status ((wholeLines bs).flatMap fun l =>
        if l.getLast? = some '\n' then f t l.dropLast ++ ['\n'] else f t l)

/-- Prints lines with blanks in place of tabs. -/
def expand : Tool := fun _ args =>
  let a := arguments "i" "t" [("tabs", 't'), ("initial", 'i')] args
  onLines "expand" a fun t => expanded t (a.has 'i') 0

/-- Prints lines with tabs in place of blanks. -/
def unexpand : Tool := fun _ args =>
  let long := [("tabs", 't'), ("all", 'a'), ("first-only", 'f')]
  let a := arguments "af" "t" long args
  let all := (a.has 'a' || a.has 't') && !a.has 'f'
  onLines "unexpand" a fun t l => unexpanded t all (l.length + 1) 0 l

end UseCase.Shell.Tool
