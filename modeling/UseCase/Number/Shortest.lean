import UseCase.Number.Binary64

/-!
# Shortest decimal text

A finite value is written with the fewest digits that read back as the same value; of several such
decimals the nearest one is taken, and of two equally near ones the greater. The digits are set out
in positional notation, without an exponent and without a fraction when there is none.
-/

namespace UseCase.Binary64

/-- A decimal `digits * 10 ^ power`. -/
structure Decimal where
  digits : Nat
  power : Int
  deriving DecidableEq, Repr

/-- The number of decimal digits of `n`, none for zero. -/
def digitCount (n : Nat) : Nat :=
  if n = 0 then 0 else (Nat.toDigits 10 n).length

/-- The `k` with `10 ^ (k - 1) ≤ num / den < 10 ^ k`. -/
def decimalSize (num den : Nat) : Int :=
  if den ≤ num then digitCount (num / den)
  else 1 - (max 1 (digitCount ((den + num - 1) / num - 1)) : Nat)

/-- The reals that round to `mantissa * 2 ^ exponent`, as two ends in quarters of `2 ^ exponent`.
The lower end is nearer at a power of two, where the values below lie closer together. -/
def interval (mantissa : Nat) (exponent : Int) : Nat × Nat :=
  let below := if mantissa = mantissaBound / 2 ∧ minExponent < exponent then 1 else 2
  (4 * mantissa - below, 4 * mantissa + 2)

/-- Whether `d` units of `unitNum / unitDen` round to the value with the given ends; the ends
themselves do exactly when the mantissa is even. -/
def reads (ends : Nat × Nat) (quarterNum quarterDen unitNum unitDen d : Nat) (even : Bool) : Bool :=
  let x := d * unitNum * quarterDen
  let low := ends.1 * quarterNum * unitDen
  let high := ends.2 * quarterNum * unitDen
  if even then low ≤ x && x ≤ high else low < x && x < high

/-- The nearest decimal with at most `n` digits that reads back, if there is one. -/
def atDigits? (mantissa : Nat) (exponent : Int) (n : Nat) : Option Decimal :=
  let (quarterNum, quarterDen) := scaled 1 (exponent - 2)
  let num := 4 * mantissa * quarterNum
  let power := decimalSize num quarterDen - n
  let (unitNum, unitDen) :=
    if 0 ≤ power then (Nat.pow 10 power.toNat, 1) else (1, Nat.pow 10 (-power).toNat)
  let below := num * unitDen / (quarterDen * unitNum)
  let rest := num * unitDen % (quarterDen * unitNum)
  let ends := interval mantissa exponent
  let ok := fun d =>
    reads ends quarterNum quarterDen unitNum unitDen d (mantissa % 2 == 0)
  match ok below, ok (below + 1) with
  | true, true =>
    some ⟨if 2 * rest < quarterDen * unitNum then below else below + 1, power⟩
  | true, false => some ⟨below, power⟩
  | false, true => some ⟨below + 1, power⟩
  | false, false => none

/-- The shortest decimal that reads back as `mantissa * 2 ^ exponent`; seventeen digits suffice. -/
def shortest (mantissa : Nat) (exponent : Int) : Decimal :=
  if mantissa = 0 then ⟨0, 0⟩
  else ((List.range 17).findSome? fun n => atDigits? mantissa exponent (n + 1)).getD ⟨0, 0⟩

/-- The digits without the zeros at the end of a fraction. -/
def dropZeros (digits : List Char) : List Char :=
  (digits.reverse.dropWhile (· == '0')).reverse

/-- Positional notation of a decimal. -/
def Decimal.text (d : Decimal) : String :=
  let digits := Nat.toDigits 10 d.digits
  if 0 ≤ d.power then String.ofList (digits ++ List.replicate d.power.toNat '0')
  else
    let places := (-d.power).toNat
    let padded := List.replicate (places + 1 - digits.length) '0' ++ digits
    let whole := padded.take (padded.length - places)
    let fraction := dropZeros (padded.drop (padded.length - places))
    String.ofList (if fraction.isEmpty then whole else whole ++ '.' :: fraction)

/-- The text of a value: shortest digits, positional, `inf` and `NaN` for the rest. -/
def text : Binary64 → String
  | .finite negative mantissa exponent =>
    (if negative then "-" else "") ++ (shortest mantissa exponent).text
  | .infinite negative => if negative then "-inf" else "inf"
  | .nan => "NaN"

end UseCase.Binary64
