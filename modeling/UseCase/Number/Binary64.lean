/-!
# Binary floating point with 53 significant bits

A finite value is a signed product `mantissa * 2 ^ exponent` with a mantissa below `2 ^ 53`, as the
binary64 format of IEEE 754 has it. `ofRatio` and `ofDecimal` round to the nearest value, a tie
going to the even mantissa; all of it is arithmetic on natural numbers.
-/

namespace UseCase

/-- A value of the binary64 format. -/
inductive Binary64 where
  | finite (negative : Bool) (mantissa : Nat) (exponent : Int)
  | infinite (negative : Bool)
  | nan
  deriving DecidableEq, Repr

namespace Binary64

/-- The least exponent of a finite value. -/
def minExponent : Int := -1074

/-- The greatest exponent of a finite value. -/
def maxExponent : Int := 971

/-- Mantissas are below this number. -/
def mantissaBound : Nat := Nat.pow 2 53

/-- Zero with a sign. -/
def zero (negative : Bool) : Binary64 :=
  .finite negative 0 minExponent

/-- A quotient rounded to the nearest natural number, a tie going to the even one. -/
def roundDiv (num den : Nat) : Nat :=
  let q := num / den
  let r := num % den
  if 2 * r < den then q
  else if den < 2 * r then q + 1
  else if q % 2 = 0 then q else q + 1

/-- `a * 2 ^ e` as a fraction. -/
def scaled (a : Nat) (e : Int) : Nat × Nat :=
  if 0 ≤ e then (a * Nat.pow 2 e.toNat, 1) else (a, Nat.pow 2 (-e).toNat)

/-- The exponent of the greatest power of two that is at most `num / den`. -/
def floorLog2 (num den : Nat) : Int :=
  let guess : Int := (num.log2 : Int) - den.log2
  let (p, q) := scaled 1 guess
  if num * q < den * p then guess - 1 else guess

/-- The value nearest to `num / den`. -/
def ofRatio (negative : Bool) (num den : Nat) : Binary64 :=
  if num = 0 then zero negative
  else
    let exponent := max (floorLog2 num den - 52) minExponent
    let (p, q) := scaled 1 exponent
    let mantissa := roundDiv (num * q) (den * p)
    let (mantissa, exponent) :=
      if mantissa = mantissaBound then (mantissaBound / 2, exponent + 1) else (mantissa, exponent)
    if maxExponent < exponent then .infinite negative else .finite negative mantissa exponent

/-- The value nearest to `digits * 10 ^ power`. Numbers far outside the range are settled by their
size alone, before any power is formed. -/
def ofDecimal (negative : Bool) (digits : Nat) (power : Int) : Binary64 :=
  let size := ((Nat.toDigits 10 digits).length : Int) + power
  if digits = 0 then zero negative
  else if 400 < size then .infinite negative
  else if size < -400 then zero negative
  else if 0 ≤ power then ofRatio negative (digits * Nat.pow 10 power.toNat) 1
  else ofRatio negative digits (Nat.pow 10 (-power).toNat)

/-- The value nearest to a natural number. -/
def ofNat (n : Nat) : Binary64 :=
  ofRatio false n 1

end Binary64

end UseCase
