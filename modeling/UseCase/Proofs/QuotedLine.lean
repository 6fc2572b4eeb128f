import UseCase.Proofs.Batch
import UseCase.Proofs.Words

/-!
# Quoted lines

Words are written into a line by quoting each of them and putting blanks between. The words may be
empty or hold blanks and number signs; only quotation marks and line feeds cannot be written.

The main statement `quoted_words` is that a batch carries out such a line with just these words, and
how any other line is cut: which lines have no words, that no word has a quotation mark, and that
without these marks the words are the longest runs of other characters than blanks.
-/

namespace UseCase.CommandLine

variable {word gap line : List Char} {words : List (List Char)}

/-- A word in quotation marks. -/
def quote (word : List Char) : List Char :=
  '\x22' :: (word ++ ['\x22'])

/-- A word that can be written between quotation marks. -/
def Quotable (word : List Char) : Prop :=
  '\x22' ∉ word ∧ '\n' ∉ word

/-- Whether a word can be written between quotation marks can be decided. -/
instance (word : List Char) : Decidable (Quotable word) :=
  inferInstanceAs (Decidable (_ ∧ _))

/-- Blanks that part the words of a line. -/
structure Gap (gap : List Char) : Prop where
  some : gap ≠ []
  blank : ∀ c ∈ gap, Text.isBlank c = true
  whole : '\n' ∉ gap

/-- The lines of quoted words. -/
inductive Quotes : List (List Char) → List Char → Prop
  | last {word : List Char} : Quotable word → Quotes [word] (quote word)
  | cons {word gap line : List Char} {words : List (List Char)} : Quotable word → Gap gap →
    Quotes words line → Quotes (word :: words) (quote word ++ gap ++ line)

/-- Words that are joined by the same blanks are a case of this. -/
lemma quotes_intercalate (parted : Gap gap) (some : words ≠ [])
    (quotable : ∀ word ∈ words, Quotable word) :
    Quotes words (gap.intercalate (words.map quote)) := by
  induction words with
  | nil => exact absurd rfl some
  | cons word words ih =>
    obtain ⟨here, further⟩ := List.forall_mem_cons.mp quotable
    cases words with
    | nil =>
      rw [List.map_singleton, List.intercalate_singleton]
      exact .last here
    | cons next words =>
      rw [List.map_cons, List.map_cons, List.intercalate_cons_cons, ← List.map_cons]
      exact .cons here parted (ih (List.cons_ne_nil next words) further)

/-! ## Words -/

/-- A quoted word is cut off, if nothing sticks to it. -/
lemma cutWords_quote (unmarked : '\x22' ∉ word) {rest : List Char}
    (stops : ∀ c ∈ rest.head?, Text.isBlank c = true) :
    cutWords false false (quote word ++ rest) = (cutWords false false rest).map (word :: ·) := by
  have held : ∀ c ∈ word, c ≠ '\x22' ∧ (true = true ∨ Text.isBlank c = false) := by
    refine fun c inside => ⟨?_, .inl rfl⟩
    rintro rfl
    exact unmarked inside
  calc cutWords false false (quote word ++ rest)
      = cutWords true true (word ++ '\x22' :: rest) := by
        rw [quote, List.cons_append, List.append_assoc]
        rfl
    _ = (cutWords false true rest).map (word.foldr pushFront) := cutWords_append held
    _ = (cutWords false false rest).map (word :: ·) := cutWords_over word stops

/-- Blanks between words are passed over. -/
lemma cutWords_gap (blank : ∀ c ∈ gap, Text.isBlank c = true) (rest : List Char) :
    cutWords false false (gap ++ rest) = cutWords false false rest := by
  induction gap with
  | nil => rfl
  | cons c gap ih =>
    obtain ⟨here, further⟩ := List.forall_mem_cons.mp blank
    rw [List.cons_append, cutWords_blank here, ih further]
    exact Option.map_id'

/-- The words of a line of quoted words are these. -/
lemma Quotes.cut (quotes : Quotes words line) : cutWords false false line = some words := by
  induction quotes with
  | @last word quotable =>
    have stops : ∀ c ∈ ([] : List Char).head?, Text.isBlank c = true := by
      intro c first
      cases first
    rw [← List.append_nil (quote word), cutWords_quote quotable.1 stops]
    rfl
  | @cons word gap line words quotable parted rest ih =>
    have stops : ∀ c ∈ (gap ++ line).head?, Text.isBlank c = true := by
      obtain ⟨c, gap, rfl⟩ := List.exists_cons_of_ne_nil parted.some
      rintro _ ⟨⟩
      exact parted.blank c List.mem_cons_self
    rw [List.append_assoc, cutWords_quote quotable.1 stops, cutWords_gap parted.blank, ih]
    rfl

/-! ## Lines -/

/-- A line of quoted words begins and ends with a quotation mark. -/
lemma Quotes.framed (quotes : Quotes words line) :
    ∃ inner, line = '\x22' :: (inner ++ ['\x22']) := by
  induction quotes with
  | @last word => exact ⟨word, rfl⟩
  | @cons word gap line words quotable parted rest ih =>
    obtain ⟨inner, rfl⟩ := ih
    refine ⟨word ++ '\x22' :: gap ++ '\x22' :: inner, ?_⟩
    rw [quote]
    simp

/-- There is no line break in a line of quoted words. -/
lemma Quotes.whole (quotes : Quotes words line) : '\n' ∉ line := by
  induction quotes with
  | @last word quotable => simp [quote, quotable.2]
  | @cons word gap line words quotable parted rest ih =>
    simp [quote, quotable.2, parted.whole, ih]

/-- Nothing is trimmed from a text without blanks at its ends. -/
lemma trim_framed {c d : Char} (first : Text.isBlank c = false) (last : Text.isBlank d = false)
    (inner : List Char) : Text.trim (c :: (inner ++ [d])) = c :: (inner ++ [d]) := by
  have start : Text.trimStart (c :: (inner ++ [d])) = c :: (inner ++ [d]) := by
    rw [Text.trimStart, List.dropWhile_cons, first]
    rfl
  rw [Text.trim, start, Text.trimEnd, Text.dropEnd, ← List.cons_append, List.reverse_concat,
    List.dropWhile_cons, last, if_neg Bool.false_ne_true, ← List.reverse_concat,
    List.reverse_reverse]

/-- A line of quoted words has no blanks around it and is not passed over. -/
lemma Quotes.trim (quotes : Quotes words line) :
    Text.trim line = line ∧ Batch.isIdle (Text.trim line) = false := by
  obtain ⟨inner, rfl⟩ := quotes.framed
  rw [trim_framed rfl rfl]
  exact ⟨rfl, rfl⟩

/-- Between two parts of a text a line of quoted words is a line. -/
lemma Quotes.lines (quotes : Quotes words line) {front back : List Char}
    (ends : Text.EndsLine front) (starts : Text.StartsLine back) :
    Text.lines (front ++ line ++ back) = Text.lines front ++ line :: Text.lines back.tail := by
  rw [List.append_assoc, ends.lines_append]
  obtain ⟨inner, rfl⟩ := quotes.framed
  have kept : ('\x22' :: (inner ++ ['\x22'])).getLast? ≠ some '\r' := by
    rw [← List.cons_append, List.getLast?_concat]
    decide
  rw [starts.lines_append quotes.whole (List.cons_ne_nil _ _) kept]

variable {l : Loader Desk} {asJson : Bool}

/-- A line of quoted words has these words. -/
lemma Quotes.words?_eq (quotes : Quotes words line) :
    words? (String.ofList line) = some (words.map String.ofList) := by
  rw [words?, String.toList_ofList, quotes.cut]
  rfl

/-- Among the lines of a batch one of quoted words is carried out with these. -/
lemma Quotes.runLines (quotes : Quotes words line) (number : Nat) (rest : List (List Char)) :
    Batch.runLines l asJson number (line :: rest) = (do
      (Batch.runWords l asJson (words.map String.ofList)).adaptExcept
        (Report.during s!"line {number}: {String.ofList line}")
      Batch.runLines l asJson (number + 1) rest) := by
  obtain ⟨trimmed, busy⟩ := quotes.trim
  rw [Batch.runLines_busy busy, trimmed, Batch.runLine, quotes.words?_eq]

/-- Quoted words with blanks between make a line whose words they are, and wherever it stands in a
batch, it is not passed over but carried out with these words. Whatever the line is, it has no words
just if its quotation marks are odd in number, and no word has such a mark; without them, the words
are the longest runs of characters that are no blanks. -/
theorem quoted_words :
    (∀ gap words, Gap gap → words ≠ [] → (∀ word ∈ words, Quotable word) →
      Quotes words (gap.intercalate (words.map quote))) ∧
    (∀ words line, Quotes words line →
      words? (String.ofList line) = some (words.map String.ofList) ∧
      Batch.isIdle (Text.trim line) = false ∧
      ∀ l asJson front back number, Text.EndsLine front → Text.StartsLine back →
        number = (Text.lines front).length + 1 →
        Batch.run l asJson (String.ofList (front ++ line ++ back)) = (do
          Batch.runLines l asJson 1 (Text.lines front)
          (Batch.runWords l asJson (words.map String.ofList)).adaptExcept
            (Report.during s!"line {number}: {String.ofList line}")
          Batch.runLines l asJson (number + 1) (Text.lines back.tail))) ∧
    ∀ line : String,
      (words? line = none ↔ Odd (line.toList.count '\x22')) ∧
      (∀ words, words? line = some words → ∀ word ∈ words, '\x22' ∉ word.toList) ∧
      ('\x22' ∉ line.toList → ∀ words,
        words? line = some words ↔ Runs line.toList (words.map String.toList)) := by
  refine ⟨fun gap words => quotes_intercalate, fun words line quotes => ?_, fun line => ?_⟩
  · refine ⟨quotes.words?_eq, quotes.trim.2, ?_⟩
    rintro l asJson front back number ends starts rfl
    rw [Batch.run, String.toList_ofList, quotes.lines ends starts, Batch.runLines_append,
      quotes.runLines, Nat.add_comm 1]
  · refine ⟨words?_eq_none, fun words => not_mem_of_words?, fun unmarked words => ?_⟩
    rw [words?_eq_some, cutWords_eq_some_iff unmarked]

/-- A quoted number sign begins no comment, nothing between quotation marks is a word, and an open
quotation is refused. -/
theorem quoted_words_of_comment :
    let words := ["#set".toList, [], "a b".toList]
    let line := "\x22#set\x22\t \x22\x22\t \x22a b\x22"
    Gap "\t ".toList ∧ (∀ word ∈ words, Quotable word) ∧ Quotes words line.toList ∧
      (∀ l, Batch.run l false ("status\n" ++ line ++ "\nreset") = (do
        Batch.runLines l false 1 ["status".toList]
        (Batch.runWords l false ["#set", "", "a b"]).adaptExcept
          (Report.during s!"line 2: {line}")
        Batch.runLines l false 3 ["reset".toList])) ∧
      Runs "get\tTQ ".toList ["get".toList, "TQ".toList] ∧
      (∀ word ∈ ["get", "T Q"], '\x22' ∉ word.toList) ∧
      words? "get \x22TQ" = none := by
  intro words line
  have parted : Gap "\t ".toList :=
    ⟨by decide, List.forall_mem_cons.mpr ⟨rfl, List.forall_mem_singleton.mpr rfl⟩, by decide⟩
  have quotable : ∀ word ∈ words, Quotable word := by
    refine List.forall_mem_cons.mpr ⟨by decide, List.forall_mem_cons.mpr ⟨by decide, ?_⟩⟩
    exact List.forall_mem_singleton.mpr (by decide)
  have quotes := quoted_words.1 "\t ".toList words parted (List.cons_ne_nil _ _) quotable
  have joined : "\t ".toList.intercalate (words.map quote) = line.toList := by decide
  rw [joined] at quotes
  have ends : Text.EndsLine "status\n".toList := .inr rfl
  have starts : Text.StartsLine "\nreset".toList := .inr rfl
  obtain ⟨-, -, carried⟩ := quoted_words.2.1 words line.toList quotes
  have front : Text.lines "status\n".toList = ["status".toList] := by decide
  have back : Text.lines "\nreset".toList.tail = ["reset".toList] := by decide
  have named : words.map String.ofList = ["#set", "", "a b"] := by decide
  have unmarked : '\x22' ∉ "get\tTQ ".toList := by decide
  have found : words? "get\tTQ " = some ["get", "TQ"] := by decide
  have spaced : words? "get \x22T Q\x22" = some ["get", "T Q"] := by decide
  have second : 2 = (Text.lines "status\n".toList).length + 1 := by rw [front]; rfl
  have odd : Odd ("get \x22TQ".toList.count '\x22') := ⟨0, by decide⟩
  refine ⟨parted, quotable, quotes, fun l => ?_, ?_, ?_, ?_⟩
  · have run := carried l false "status\n".toList "\nreset".toList 2 ends starts second
    rw [front, back, named, String.ofList_append, String.ofList_append, String.ofList_toList,
      String.ofList_toList, String.ofList_toList] at run
    exact run
  · exact ((quoted_words.2.2 "get\tTQ ").2.2 unmarked ["get", "TQ"]).mp found
  · exact (quoted_words.2.2 "get \x22T Q\x22").2.1 _ spaced
  · exact (quoted_words.2.2 "get \x22TQ").1.mpr odd

end UseCase.CommandLine
