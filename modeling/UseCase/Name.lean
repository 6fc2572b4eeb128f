import UseCase.Text.Blank
import UseCase.Text.Numeral

/-!
# Names of devices and modifiers

An entity is addressed by its exact name, by a spelling that differs in blanks only, or by its stem:
the name without the index number at its end. `key` is the spelling that the second comparison uses
and `stemKey` the one of the third.
-/

namespace UseCase.Name

/-- An ASCII digit. -/
def isDigit (c : Char) : Bool :=
  '0' ≤ c && c ≤ '9'

/-- The name without its blanks. -/
def key (name : String) : String :=
  String.ofList (Text.compact name.toList)

/-- The name without the index number at its end and the blanks before it. A name that has no such
number, or nothing else, is its own stem. -/
def stem (name : String) : String :=
  let unnumbered := Text.dropEnd isDigit name.toList
  let trimmed := Text.trimEnd unnumbered
  if unnumbered.length = name.toList.length ∨ trimmed = [] then name else String.ofList trimmed

/-- The stem without its blanks. -/
def stemKey (name : String) : String :=
  key (stem name)

end UseCase.Name
