/-!
# Decimal numerals

Numbers written in a text: ASCII digits with at most one sign in front. Leading zeros are allowed,
blanks and separators are not.
-/

namespace UseCase.Text

/-- The value of an ASCII digit. -/
def digit? (c : Char) : Option Nat :=
  if '0' ≤ c && c ≤ '9' then some (c.toNat - '0'.toNat) else none

/-- The number that the digits write after the digits of `acc`. -/
def digitsFrom? (acc : Nat) : List Char → Option Nat
  | [] => some acc
  | c :: rest => (digit? c).bind fun d => digitsFrom? (10 * acc + d) rest

/-- The number written by one or more digits. -/
def digits? : List Char → Option Nat
  | [] => none
  | cs => digitsFrom? 0 cs

/-- The number of words of `bits` bits. -/
def wordCount (bits : Nat) : Nat :=
  Nat.pow 2 bits

/-- A number below `bound`, with an optional plus sign. -/
def natural? (bound : Nat) (cs : List Char) : Option Nat :=
  let unsigned := match cs with
    | '+' :: rest => digits? rest
    | _ => digits? cs
  unsigned.filter fun n => decide (n < bound)

/-- A number in the two's complement range of `bits` bits, with an optional sign. -/
def integer? (bits : Nat) (cs : List Char) : Option Int :=
  let signed : Option Int := match cs with
    | '+' :: rest => (digits? rest).map Int.ofNat
    | '-' :: rest => (digits? rest).map fun n => - Int.ofNat n
    | _ => (digits? cs).map Int.ofNat
  let bound : Int := wordCount (bits - 1)
  signed.filter fun n => decide (-bound ≤ n) && decide (n < bound)

/-- The value of a digit in a base up to sixteen, with letters of either case. -/
def radixDigit? (base : Nat) (c : Char) : Option Nat :=
  let value :=
    if '0' ≤ c && c ≤ '9' then c.toNat - '0'.toNat
    else if 'a' ≤ c && c ≤ 'f' then c.toNat - 'a'.toNat + 10
    else if 'A' ≤ c && c ≤ 'F' then c.toNat - 'A'.toNat + 10
    else base
  if value < base then some value else none

/-- The number that digits of a base write after the number `acc`. -/
def radixFrom? (base acc : Nat) : List Char → Option Nat
  | [] => some acc
  | c :: rest => (radixDigit? base c).bind fun d => radixFrom? base (base * acc + d) rest

/-- Digits with zeros in front, at least `width` of them. -/
def padded (width : Nat) (digits : List Char) : String :=
  String.ofList (List.replicate (width - digits.length) '0' ++ digits)

/-- Decimal digits of `n`, at least `width` of them. -/
def decimal (width n : Nat) : String :=
  padded width (Nat.toDigits 10 n)

/-- Upper-case hexadecimal digits of `n`, at least `width` of them. -/
def hexadecimal (width n : Nat) : String :=
  padded width ((Nat.toDigits 16 n).map Char.toUpper)

end UseCase.Text
