import UseCase.Text.Numeral

/-!
# Dates and times

Dates with an optional time, and times alone: the seconds, which then are none, and the offset may be
left out. Days have to exist in their month. `Moment.text` writes a moment in one way, however it was
written: the time is parted from the date by a `T`, and of a fraction of a second nine digits count
and zeros at its end do not.
-/

namespace UseCase.Toml

/-- A day of the calendar. -/
structure Date where
  year : Nat
  month : Nat
  day : Nat
  deriving DecidableEq, Repr

/-- A time of the day. -/
structure Time where
  hour : Nat
  minute : Nat
  second : Nat
  /-- The digits behind the second. -/
  fraction : List Char
  deriving DecidableEq, Repr

/-- The difference of a time from universal time. -/
inductive Offset where
  | universal
  | custom (behind : Bool) (hour minute : Nat)
  deriving DecidableEq, Repr

/-- A date, a time or both. -/
inductive Moment where
  | date (d : Date)
  | time (t : Time)
  | full (d : Date) (t : Time) (offset : Option Offset)
  deriving DecidableEq, Repr

/-- A number of two digits. -/
def twoDigits? (a b : Char) : Option Nat :=
  Text.digits? [a, b]

namespace Date

/-- Whether a year has a 29th of February. -/
def isLeap (year : Nat) : Bool :=
  year % 4 == 0 && (year % 100 != 0 || year % 400 == 0)

/-- The number of days of a month. -/
def daysIn (year month : Nat) : Nat :=
  if month = 2 then if isLeap year then 29 else 28
  else if month = 4 ∨ month = 6 ∨ month = 9 ∨ month = 11 then 30
  else 31

/-- Reads a date. -/
def read? : List Char → Option (Date × List Char)
  | y₁ :: y₂ :: y₃ :: y₄ :: '-' :: m₁ :: m₂ :: '-' :: d₁ :: d₂ :: rest => do
    let year ← Text.digits? [y₁, y₂, y₃, y₄]
    let month ← twoDigits? m₁ m₂
    let day ← twoDigits? d₁ d₂
    guard (1 ≤ month ∧ month ≤ 12 ∧ 1 ≤ day ∧ day ≤ daysIn year month)
    return (⟨year, month, day⟩, rest)
  | _ => none

/-- The text of a date. -/
def text (d : Date) : String :=
  Text.decimal 4 d.year ++ "-" ++ Text.decimal 2 d.month ++ "-" ++ Text.decimal 2 d.day

end Date

namespace Time

/-- Reads the digits of a fraction of a second, if there is one. -/
def fraction? : List Char → Option (List Char × List Char)
  | '.' :: rest => do
    let digits := rest.takeWhile Char.isDigit
    guard (digits ≠ [])
    return (digits, rest.dropWhile Char.isDigit)
  | cs => some ([], cs)

/-- Reads a time. -/
def read? : List Char → Option (Time × List Char)
  | h₁ :: h₂ :: ':' :: m₁ :: m₂ :: rest => do
    let hour ← twoDigits? h₁ h₂
    let minute ← twoDigits? m₁ m₂
    guard (hour ≤ 23 ∧ minute ≤ 59)
    match rest with
    | ':' :: s₁ :: s₂ :: rest => do
      let second ← twoDigits? s₁ s₂
      guard (second ≤ 60)
      let (fraction, rest) ← fraction? rest
      return (⟨hour, minute, second, fraction⟩, rest)
    | rest => return (⟨hour, minute, 0, []⟩, rest)
  | _ => none

/-- The digits of a fraction that count. -/
def significant (digits : List Char) : List Char :=
  ((digits.take 9).reverse.dropWhile (· == '0')).reverse

/-- The text of a time. -/
def text (t : Time) : String :=
  let digits := significant t.fraction
  let fraction := if digits.isEmpty then "" else "." ++ String.ofList digits
  Text.decimal 2 t.hour ++ ":" ++ Text.decimal 2 t.minute ++ ":" ++ Text.decimal 2 t.second ++
    fraction

end Time

namespace Offset

/-- Reads an offset, which makes up the whole text. -/
def ofText? : List Char → Option Offset
  | [c] => if c = 'Z' ∨ c = 'z' then some universal else none
  | [sign, h₁, h₂, ':', m₁, m₂] => do
    let hour ← twoDigits? h₁ h₂
    let minute ← twoDigits? m₁ m₂
    guard ((sign = '+' ∨ sign = '-') ∧ hour ≤ 23 ∧ minute ≤ 59)
    return custom (sign == '-') hour minute
  | _ => none

/-- The text of an offset; none at all is not behind. -/
def text : Offset → String
  | universal => "Z"
  | custom behind hour minute =>
    let sign := if behind && (hour != 0 || minute != 0) then "-" else "+"
    sign ++ Text.decimal 2 hour ++ ":" ++ Text.decimal 2 minute

end Offset

namespace Moment

/-- The key under which the text of a moment stands where a table is expected. -/
def tableKey : String := "$__toml_private_datetime"

/-- Reads a time with its offset after a date. -/
def timeOf? (d : Date) (cs : List Char) : Option Moment := do
  match ← Time.read? cs with
  | (t, []) => return full d t none
  | (t, rest) => return full d t (some (← Offset.ofText? rest))

/-- Reads a moment, which makes up the whole text. -/
def ofText? (cs : List Char) : Option Moment :=
  match Date.read? cs with
  | some (d, []) => some (date d)
  | some (d, c :: rest) => if c = 'T' ∨ c = 't' ∨ c = ' ' then timeOf? d rest else none
  | none =>
    match Time.read? cs with
    | some (t, []) => some (time t)
    | _ => none

/-- The text of a moment. -/
def text : Moment → String
  | date d => d.text
  | time t => t.text
  | full d t offset => d.text ++ "T" ++ t.text ++ (offset.map Offset.text).getD ""

end Moment

end UseCase.Toml
