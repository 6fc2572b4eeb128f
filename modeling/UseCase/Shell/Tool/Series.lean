import UseCase.Shell.Format
import UseCase.Shell.Tool

/-!
# Series of numbers

`seq` prints the numbers from a first to a last one in steps. They may have fractions; all of them are
printed with as many places as the first one and the step have.
-/

namespace UseCase.Shell.Tool

open Text (Bytes)

/-- A number with a fraction as it is written: its value in units of its last place. -/
structure Figure where
  units : Int
  places : Nat
  /-- The number of bytes that write it. -/
  width : Nat

namespace Figure

/-- Reads a number with a fraction and an exponent. -/
def ofText? (cs : Bytes) : Option Figure := do
  let (negative, digits) := takeSign cs
  let whole := digits.takeWhile Char.isDigit
  let rest := digits.drop whole.length
  let part := match rest with
    | '.' :: rest => rest.takeWhile Char.isDigit
    | _ => []
  let rest := if rest.head? = some '.' then rest.drop (part.length + 1) else rest
  let power ← match rest with
    | [] => some 0
    | mark :: rest => if mark = 'e' ∨ mark = 'E' then Text.integer? 16 rest else none
  let n ← Text.digits? (whole ++ part)
  let places : Int := part.length - power
  let n : Int := n * Nat.pow 10 (-places).toNat
  return ⟨if negative then -n else n, places.toNat, (cs.dropWhile (· == '+')).length⟩

/-- The value in units of some place. -/
def scaled (f : Figure) (places : Nat) : Int :=
  f.units * Nat.pow 10 (places - f.places)

/-- The text of a number of units of some place. -/
def text (places : Nat) (n : Int) : Bytes :=
  let d : Directive := ⟨[], 0, none, 'f'⟩
  (if n < 0 then ['-'] else []) ++ d.point places n.natAbs

/-- The width of a number with another count of places. -/
def widthWith (f : Figure) (places : Nat) : Nat :=
  let wide := f.width + places - f.places
  if f.places = 0 ∧ 0 < places then wide + 1 else wide

end Figure

/-- A format around a single directive. -/
structure SeriesFormat where
  front : Bytes
  directive : Directive
  back : Bytes

namespace SeriesFormat

/-- The text up to a directive, in which two signs stand for one, and what follows. -/
def plain : (fuel : Nat) → Bytes → Bytes × Bytes
  | fuel + 1, '%' :: '%' :: rest =>
    let (front, rest) := plain fuel rest
    ('%' :: front, rest)
  | _, '%' :: rest => ([], '%' :: rest)
  | fuel + 1, c :: rest =>
    let (front, rest) := plain fuel rest
    (c :: front, rest)
  | _, rest => ([], rest)

/-- Reads a format. -/
def ofText (cs : Bytes) : Except String SeriesFormat :=
  let shown := Text.ofBytes cs
  match plain (cs.length + 1) cs with
  | (front, '%' :: rest) =>
    let flags := rest.takeWhile ['-', '+', '#', '0', ' ', '\x27'].contains
    let rest := rest.drop flags.length
    let width := rest.takeWhile Char.isDigit
    let rest := rest.drop width.length
    let precision := match rest with
      | '.' :: rest => some (rest.takeWhile Char.isDigit)
      | _ => none
    let rest := rest.drop (precision.elim 0 fun digits => digits.length + 1)
    match rest with
    | [] => .error s!"format '{shown}' ends in %"
    | c :: rest =>
      if !"aefgAEFG".toList.contains c then
        .error s!"format '{shown}' has unknown %{String.ofList [c]} directive"
      else
        let digits := fun (cs : Bytes) => (Text.digits? cs).getD 0
        let (back, more) := plain (rest.length + 1) rest
        if more.isEmpty then .ok ⟨front, ⟨flags, digits width, precision.map digits, c⟩, back⟩
        else .error s!"format '{shown}' has too many % directives"
  | _ => .error s!"format '{shown}' has no % directive"

/-- The text of a number of units of some place. -/
def text (f : SeriesFormat) (places : Nat) (n : Int) : Bytes :=
  f.front ++ f.directive.float (.ofDecimal (n < 0) n.natAbs (-places)) ++ f.back

end SeriesFormat

/-- The numbers from a first to a last one in steps. -/
def series (first step last : Int) : List Int :=
  let count := if 0 < step then ((last - first) / step + 1).toNat
    else ((first - last) / -step + 1).toNat
  (List.range count).map fun i => first + Int.ofNat i * step

/-- The options of `seq` in front of its numbers, and the numbers. -/
def seriesOptions (args : List Bytes) : Arguments :=
  let isOption := fun (arg : Bytes) => match arg with
    | '-' :: c :: _ => !c.isDigit && c != '.'
    | _ => false
  let rec count : List Bytes → Nat
    | ['-', '-'] :: _ => 0
    | arg :: rest =>
      if arg == ['-', 's'] || arg == ['-', 'f'] then
        match rest with
        | _ :: rest => 2 + count rest
        | [] => 1
      else if isOption arg then 1 + count rest else 0
    | [] => 0
  let long := [("separator", 's'), ("format", 'f'), ("equal-width", 'w')]
  let front := args.take (count args)
  let rest := args.drop front.length
  let rest := if rest.head? = some ['-', '-'] then rest.drop 1 else rest
  { arguments "w" "sf" long front with operands := rest }

/-- Prints numbers in order. -/
def sequence : Tool := fun _ args =>
  let a := seriesOptions args
  checked "seq" 1 a do
    if a.operands.isEmpty then return ← misuse "seq" 1 "missing operand"
    if let some extra := a.operands[3]? then
      return ← misuse "seq" 1 s!"extra operand '{Text.ofBytes extra}'"
    if let some wrong := a.operands.find? fun arg => (Figure.ofText? arg).isNone then
      return ← misuse "seq" 1 s!"invalid floating point argument: '{Text.ofBytes wrong}'"
    let one : Figure := ⟨1, 0, 1⟩
    let (first, step, last) := match a.operands.filterMap Figure.ofText? with
      | [last] => (one, one, last)
      | [first, last] => (first, one, last)
      | first :: step :: last :: _ => (first, step, last)
      | [] => (one, one, one)
    if step.units = 0 then
      let shown := Text.ofBytes (a.operands[1]?.getD [])
      return ← misuse "seq" 1 s!"invalid Zero increment value: '{shown}'"
    match (a.value? 'f').mapM SeriesFormat.ofText with
    | .error text =>
      tell "seq" text
      return 1
    | .ok format =>
      let places := max first.places step.places
      let most := max places last.places
      let unit := Int.ofNat (Nat.pow 10 (most - places))
      let ns := (series (first.scaled most) (step.scaled most) (last.scaled most)).map (· / unit)
      let width := max (first.widthWith places)
        (if 0 < last.places ∧ places = 0 then last.width - last.places - 1
          else last.widthWith places)
      let filled := fun (cs : Bytes) =>
        let digits := cs.dropWhile (· == '-')
        let sign := cs.take (cs.length - digits.length)
        sign ++ List.replicate (width - cs.length) '0' ++ digits
      let items := ns.map fun n => match format with
        | some f => f.text places n
        | none => if a.has 'w' then filled (Figure.text places n) else Figure.text places n
      if items.isEmpty then return 0
      output 0 (((a.value? 's').getD ['\n']).intercalate items ++ ['\n'])

end UseCase.Shell.Tool
