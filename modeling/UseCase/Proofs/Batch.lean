import Mathlib.Data.List.Basic
import UseCase.CommandLine.Batch
import UseCase.Proofs.Splitting

/-!
# The lines of a batch

A text that ends a line can be followed by any other text, and the lines are those of both. A batch
carries them out one after another, so that a line between two parts of a batch is carried out
between them, with the number that it has in the whole text.
-/

namespace UseCase

namespace Text

variable {text line front back : List Char}

/-- A line without the carriage return at its end. -/
def withoutReturn (line : List Char) : List Char :=
  if line.getLast? = some '\r' then line.dropLast else line

/-- A text that begins a new line, if anything is added to it. -/
def EndsLine (text : List Char) : Prop :=
  text = [] ∨ text.getLast? = some '\n'

/-- A text that ends a line to which it is added, if there is any text. -/
def StartsLine (text : List Char) : Prop :=
  text = [] ∨ text.head? = some '\n'

/-- The last piece of a text is its last line, unless it is empty. -/
lemma lines_of_segments {pieces : List (List Char)} {last : List Char}
    (cut : segments '\n' text = pieces ++ [last]) :
    lines text = pieces.map withoutReturn ++ if last = [] then [] else [last] := by
  unfold lines
  simp only [cut, List.dropLast_concat, List.getLast?_concat]
  cases last with
  | nil => exact (List.append_nil _).symm
  | cons c last => rfl

/-- The lines on both sides of a line feed. -/
lemma lines_feed (front back : List Char) :
    lines (front ++ '\n' :: back) = (segments '\n' front).map withoutReturn ++ lines back := by
  obtain ⟨pieces, last, cut⟩ :=
    (List.eq_nil_or_concat' (segments '\n' back)).resolve_left (segments_ne_nil '\n' back)
  have joined : segments '\n' (front ++ '\n' :: back) =
      segments '\n' front ++ pieces ++ [last] := by
    rw [segments_append, cut, List.append_assoc]
  rw [lines_of_segments joined, lines_of_segments cut, List.map_append, List.append_assoc]

/-- Behind a text that ends a line the lines are added to its own. -/
lemma EndsLine.lines_append (ends : EndsLine front) (back : List Char) :
    lines (front ++ back) = lines front ++ lines back := by
  rcases ends with rfl | last
  · rfl
  · obtain ⟨begun, rfl⟩ := List.getLast?_eq_some_iff.mp last
    rw [List.append_assoc, List.singleton_append, lines_feed, lines_feed]
    exact (congrArg (· ++ _) (List.append_nil _)).symm

/-- A line in front of a text that ends it. -/
lemma StartsLine.lines_append (starts : StartsLine back) (whole : '\n' ∉ line) (full : line ≠ [])
    (kept : line.getLast? ≠ some '\r') : lines (line ++ back) = line :: lines back.tail := by
  rcases starts with rfl | first
  · obtain ⟨c, rest, rfl⟩ := List.exists_cons_of_ne_nil full
    rw [List.append_nil, lines, segments_whole whole]
    rfl
  · obtain ⟨further, rfl⟩ := List.head?_eq_some_iff.mp first
    rw [lines_feed, segments_whole whole, List.map_singleton, withoutReturn, if_neg kept]
    rfl

end Text

namespace CommandLine.Batch

variable {l : Loader Desk} {asJson : Bool} {number : Nat}

/-- A line that is passed over still counts. -/
lemma runLines_idle {line : List Char} (idle : isIdle (Text.trim line) = true)
    (rest : List (List Char)) :
    runLines l asJson number (line :: rest) = runLines l asJson (number + 1) rest := by
  rw [runLines, if_pos idle]

/-- A line that is not idle runs before the rest. -/
lemma runLines_busy {line : List Char} (busy : isIdle (Text.trim line) = false)
    (rest : List (List Char)) :
    runLines l asJson number (line :: rest) = (do
      runLine l asJson number (String.ofList (Text.trim line))
      runLines l asJson (number + 1) rest) := by
  rw [runLines, busy]
  rfl

/-- Lines behind others are carried out after these, unless one of them fails. -/
lemma runLines_append (front back : List (List Char)) :
    runLines l asJson number (front ++ back) = (do
      runLines l asJson number front
      runLines l asJson (number + front.length) back) := by
  induction front generalizing number with
  | nil => rfl
  | cons line front ih =>
    have counted : number + (line :: front).length = number + 1 + front.length := by
      rw [List.length_cons, Nat.add_assoc, Nat.add_comm 1]
    rw [List.cons_append, counted]
    cases idle : isIdle (Text.trim line) with
    | true => rw [runLines_idle idle, runLines_idle idle, ih]
    | false => rw [runLines_busy idle, runLines_busy idle, ih, bind_assoc]

end CommandLine.Batch

end UseCase
