/-!
# Blank characters

Words are separated by the characters with the Unicode property White_Space. Everything that trims,
drops or splits at blanks in this library goes through `isBlank`; the zero-width characters U+200B
and U+FEFF are no blanks.
-/

namespace UseCase.Text

/-- A character with the Unicode property White_Space. -/
def isBlank (c : Char) : Bool :=
  let n := c.toNat
  (0x09 ≤ n && n ≤ 0x0D) || n == 0x20 || n == 0x85 || n == 0xA0 || n == 0x1680 ||
  (0x2000 ≤ n && n ≤ 0x200A) || n == 0x2028 || n == 0x2029 || n == 0x202F || n == 0x205F ||
  n == 0x3000

/-- The characters without the blanks at the front. -/
def trimStart (cs : List Char) : List Char :=
  cs.dropWhile isBlank

/-- The characters without the longest run at the end that satisfies `p`. -/
def dropEnd (p : Char → Bool) (cs : List Char) : List Char :=
  (cs.reverse.dropWhile p).reverse

/-- The characters without the blanks at the end. -/
def trimEnd (cs : List Char) : List Char :=
  dropEnd isBlank cs

/-- The characters without the blanks at either end. -/
def trim (cs : List Char) : List Char :=
  trimEnd (trimStart cs)

/-- The characters that are no blanks. -/
def compact (cs : List Char) : List Char :=
  cs.filter fun c => !isBlank c

end UseCase.Text
