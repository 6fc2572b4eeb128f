import UseCase.Text.Blank

/-!
# Words of a batch line

Blanks part the words of a line. Quotation marks hold blanks together and may stand anywhere in a
word; a pair of them makes a word even with nothing between. A line on which a quotation is not
closed has no words.
-/

namespace UseCase.CommandLine

/-- Puts a character in front of the first word. -/
def pushFront (c : Char) : List (List Char) → List (List Char)
  | [] => [[c]]
  | word :: words => (c :: word) :: words

/-- Cuts the characters of a line into words. `quoted` tells that a quotation is open and `inWord`
that a word has begun, which is then the first one of the result. -/
def cutWords (quoted inWord : Bool) : List Char → Option (List (List Char))
  | [] => if quoted then none else some (if inWord then [[]] else [])
  | c :: rest =>
    if c = '\x22' then cutWords (!quoted) true rest
    else if Text.isBlank c && !quoted then
      (cutWords false false rest).map fun words => if inWord then [] :: words else words
    else (cutWords quoted true rest).map (pushFront c)

/-- The words of a line. -/
def words? (line : String) : Option (List String) :=
  (cutWords false false line.toList).map fun words => words.map String.ofList

end UseCase.CommandLine
