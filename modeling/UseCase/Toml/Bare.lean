import UseCase.Text.Split
import UseCase.Toml.Value

/-!
# Values without quotation marks

Booleans, numbers, dates and times. Single underscores may separate the digits of a number; a
decimal one has no zero in front, and a fraction has digits on both sides of its point. Numbers
that are too great for every reader are taken as unreadable values, and so are words that look like
grouped digits at their seams only.
-/

namespace UseCase.Toml

/-- A character of a value without quotation marks. -/
def isWordChar (c : Char) : Bool :=
  !" \t\r\n\x22\x27#,=[]\x7b\x7d".toList.contains c

/-- The digits of a number without the underscores between them. -/
def grouped? (isDigit : Char → Bool) : List Char → Option (List Char)
  | [] => none
  | c :: rest =>
    if !isDigit c then none
    else match rest with
      | [] => some [c]
      | '_' :: rest => (grouped? isDigit rest).map (c :: ·)
      | d :: rest => (grouped? isDigit (d :: rest)).map (c :: ·)

/-- The digits of a decimal number without a zero in front. -/
def decimalDigits? (cs : List Char) : Option (List Char) :=
  match grouped? Char.isDigit cs with
  | some ('0' :: _ :: _) => none
  | digits => digits

/-- The sign of a number and what follows it. -/
def takeSign : List Char → Bool × List Char
  | '+' :: rest => (false, rest)
  | '-' :: rest => (true, rest)
  | cs => (false, cs)

/-- A number in one of the bases that have a mark. -/
def radix? : List Char → Option Nat
  | '0' :: mark :: digits => do
    let base ← match mark with
      | 'x' => some 16
      | 'o' => some 8
      | 'b' => some 2
      | _ => none
    Text.radixFrom? base 0 (← grouped? (fun c => (Text.radixDigit? base c).isSome) digits)
  | _ => none

/-- A whole number. -/
def integer? (cs : List Char) : Option Int :=
  match radix? cs with
  | some n => some n
  | none => do
    let (negative, cs) := takeSign cs
    let n ← Text.digits? (← decimalDigits? cs)
    return if negative then - Int.ofNat n else n

/-- The power of ten after the mark of an exponent. -/
def exponent? (cs : List Char) : Option Int := do
  let (negative, cs) := takeSign cs
  let n ← Text.digits? (← grouped? Char.isDigit cs)
  return if negative then - Int.ofNat n else n

/-- The digits before and after the point of a number, if it has one. -/
def fraction? (cs : List Char) : Option (List Char × List Char) :=
  match Text.cut '.' cs with
  | none => (decimalDigits? cs).map fun whole => (whole, [])
  | some (whole, part) => do
    return (← decimalDigits? whole, ← grouped? Char.isDigit part)

/-- A number with a fraction or an exponent. -/
def decimal? (negative : Bool) (cs : List Char) : Option Binary64 := do
  let isMark := fun c : Char => c == 'e' || c == 'E'
  let (whole, part) ← fraction? (cs.takeWhile fun c => !isMark c)
  let power ← match cs.dropWhile fun c => !isMark c with
    | _ :: digits => exponent? digits
    | [] => some 0
  let digits ← Text.digits? (whole ++ part)
  return Binary64.ofDecimal negative digits (power - part.length)

/-- Whether an integer is within the reach of some reader. -/
def isWithinReach (n : Int) : Bool :=
  decide (-Text.wordCount 127 ≤ n) && decide (n < Text.wordCount 128)

/-- A float, infinite only if it is written so. -/
def float? (cs : List Char) : Option Value :=
  let (negative, cs) := takeSign cs
  if cs = "inf".toList then some (.float (.infinite negative))
  else if cs = "nan".toList then some (.float .nan)
  else (decimal? negative cs).map fun x =>
    if x = .infinite negative then .unreadable else .float x

/-- A digit in any base. -/
def isAnyDigit (c : Char) : Bool :=
  (Text.radixDigit? 16 c).isSome

/-- Whether the parts behind the first underscore of a word look like groups of digits where they
touch underscores. -/
def haveSeams : List (List Char) → Bool
  | [] => true
  | [part] => part.head?.any isAnyDigit
  | part :: rest =>
    part.head?.any isAnyDigit && part.getLast?.any isAnyDigit && haveSeams rest

/-- Whether a word looks like grouped digits at its seams, after a first group of digits. -/
def isLoose (cs : List Char) : Bool :=
  let word := (takeSign cs).2
  !word.any (fun c => c == '.' || c == 'e' || c == 'E') &&
    match Text.segments '_' word with
    | first :: second :: rest =>
      first.all Char.isDigit && first.head?.any (· != '0') && haveSeams (second :: rest)
    | _ => false

/-- The value of a word. -/
def bareWord? (cs : List Char) : Option Value :=
  if cs = "true".toList then some (.boolean true)
  else if cs = "false".toList then some (.boolean false)
  else match Moment.ofText? cs, integer? cs with
    | some m, _ => some (.moment m)
    | none, some n => some (if isWithinReach n then .integer n else .unreadable)
    | none, none => (float? cs).or (if isLoose cs then some .unreadable else none)

/-- Reads a value without quotation marks. A single space may part a date from its time. -/
def bare? (cs : List Char) : Option (Value × List Char) :=
  let word := cs.takeWhile isWordChar
  let rest := cs.dropWhile isWordChar
  match Date.read? word, rest with
  | some (_, []), ' ' :: c :: after =>
    if c.isDigit then
      let time := (c :: after).takeWhile isWordChar
      (bareWord? (word ++ ' ' :: time)).map fun v => (v, (c :: after).dropWhile isWordChar)
    else (bareWord? word).map fun v => (v, rest)
  | _, _ => (bareWord? word).map fun v => (v, rest)

end UseCase.Toml
