import Mathlib.Algebra.Ring.Parity
import Mathlib.Tactic.Common
import UseCase.CommandLine.Words

/-!
# The words of a line

A line has words unless its last quotation is left open, that is, unless it has an odd number of
quotation marks; the marks themselves are in none of the words. A line without them consists of
blanks and of the longest runs of other characters, which are its words: `Runs` says what these runs
are without a word on how they are found.
-/

namespace UseCase.CommandLine

variable {quoted inWord : Bool} {c : Char} {word line rest : List Char}
  {words : List (List Char)}

/-- The longest runs of characters that are no blanks. -/
inductive Runs : List Char → List (List Char) → Prop
  | nil : Runs [] []
  | blank {c : Char} {line : List Char} {runs : List (List Char)} :
    Text.isBlank c = true → Runs line runs → Runs (c :: line) runs
  | run {run rest : List Char} {runs : List (List Char)} :
    run ≠ [] → (∀ c ∈ run, Text.isBlank c = false) → (∀ c ∈ rest.head?, Text.isBlank c = true) →
    Runs rest runs → Runs (run ++ rest) (run :: runs)

/-! ## Steps of the cut -/

/-- A character that is neither a mark nor a free blank goes to the word that has begun. -/
lemma cutWords_inside (other : c ≠ '\x22') (held : quoted = true ∨ Text.isBlank c = false) :
    cutWords quoted inWord (c :: rest) = (cutWords quoted true rest).map (pushFront c) := by
  have kept : (Text.isBlank c && !quoted) = false := by
    rcases held with held | held <;> rw [held] <;> simp
  rw [cutWords, if_neg other, kept]
  rfl

/-- A free blank ends the word that has begun, if one has. -/
lemma cutWords_blank (blank : Text.isBlank c = true) :
    cutWords false inWord (c :: rest) =
      (cutWords false false rest).map fun words => if inWord then [] :: words else words := by
  have other : c ≠ '\x22' := by
    rintro rfl
    cases blank
  rw [cutWords, if_neg other, blank]
  rfl

/-- The characters of a word are pushed to the front of the first word. -/
lemma foldr_pushFront (word first : List Char) :
    word.foldr pushFront (first :: words) = (word ++ first) :: words := by
  induction word with
  | nil => rfl
  | cons c word ih => rw [List.foldr_cons, ih]; rfl

/-- Characters that go to the word that has begun are its beginning. -/
lemma cutWords_append
    (held : ∀ c ∈ word, c ≠ '\x22' ∧ (quoted = true ∨ Text.isBlank c = false)) :
    cutWords quoted true (word ++ rest) =
      (cutWords quoted true rest).map (word.foldr pushFront) := by
  induction word with
  | nil => exact Option.map_id'.symm
  | cons c word ih =>
    obtain ⟨here, further⟩ := List.forall_mem_cons.mp held
    rw [List.cons_append, cutWords_inside here.1 here.2, ih further, Option.map_map]
    rfl

/-- A word ends where the line does, or before a blank. -/
lemma cutWords_over (word : List Char) (stops : ∀ c ∈ rest.head?, Text.isBlank c = true) :
    (cutWords false true rest).map (word.foldr pushFront) =
      (cutWords false false rest).map (word :: ·) := by
  have ended : cutWords false true rest = (cutWords false false rest).map ([] :: ·) := by
    cases rest with
    | nil => rfl
    | cons c rest =>
      have blank := stops c rfl
      rw [cutWords_blank blank, cutWords_blank blank, Option.map_map]
      rfl
  rw [ended, Option.map_map]
  refine congrArg (Option.map · _) (funext fun words => ?_)
  exact (foldr_pushFront word []).trans (by rw [List.append_nil])

/-! ## Quotation marks -/

/-- There are no words if a quotation is open at the end. -/
lemma cutWords_eq_none :
    cutWords quoted inWord line = none ↔ (quoted = true ↔ Even (line.count '\x22')) := by
  fun_induction cutWords quoted inWord line with
  | case1 inWord => simp
  | case2 quoted inWord closed => simp [closed]
  | case3 quoted inWord rest ih =>
    rw [ih, List.count_cons_self, Nat.even_add_one]
    cases quoted <;> simp
  | case4 quoted inWord c rest other blank ih =>
    have closed : quoted = false := by
      simpa using (Bool.and_eq_true_iff.mp blank).2
    rw [Option.map_eq_none_iff, ih, List.count_cons_of_ne other, closed]
  | case5 quoted inWord c rest other held ih =>
    rw [Option.map_eq_none_iff, ih, List.count_cons_of_ne other]

/-- No word has a quotation mark. -/
lemma not_mem_of_cutWords (cut : cutWords quoted inWord line = some words) :
    ∀ word ∈ words, '\x22' ∉ word := by
  fun_induction cutWords quoted inWord line generalizing words with
  | case1 inWord => cases cut
  | case2 quoted inWord closed =>
    cases cut
    cases inWord <;> simp
  | case3 quoted inWord rest ih => exact ih cut
  | case4 quoted inWord c rest other blank ih =>
    obtain ⟨more, further, rfl⟩ := Option.map_eq_some_iff.mp cut
    cases inWord with
    | true => exact List.forall_mem_cons.mpr ⟨List.not_mem_nil, ih further⟩
    | false => exact ih further
  | case5 quoted inWord c rest other held ih =>
    obtain ⟨more, further, rfl⟩ := Option.map_eq_some_iff.mp cut
    have unmarked := ih further
    cases more with
    | nil => exact List.forall_mem_singleton.mpr fun mark => other (List.mem_singleton.mp mark).symm
    | cons first more =>
      obtain ⟨here, others⟩ := List.forall_mem_cons.mp unmarked
      refine List.forall_mem_cons.mpr ⟨fun mark => ?_, others⟩
      exact (List.mem_cons.mp mark).elim (fun same => other same.symm) here

/-! ## Runs -/

/-- Every line has its runs. -/
lemma exists_runs (line : List Char) : ∃ runs, Runs line runs := by
  induction line with
  | nil => exact ⟨[], .nil⟩
  | cons c line ih =>
    obtain ⟨runs, rest⟩ := ih
    cases blank : Text.isBlank c with
    | true => exact ⟨runs, .blank blank rest⟩
    | false =>
      have single : ∀ d ∈ [c], Text.isBlank d = false := List.forall_mem_singleton.mpr blank
      -- The character is a run of its own, unless another one follows at once.
      cases rest with
      | nil => exact ⟨[[c]], .run (List.cons_ne_nil c []) single nofun .nil⟩
      | @blank d line runs gap rest =>
        refine ⟨[c] :: runs, .run (List.cons_ne_nil c []) single ?_ (.blank gap rest)⟩
        rintro _ ⟨⟩
        exact gap
      | @run run rest runs full solid stops others =>
        exact ⟨(c :: run) :: runs, .run (List.cons_ne_nil c run)
          (List.forall_mem_cons.mpr ⟨blank, solid⟩) stops others⟩

/-- The runs of a line without quotation marks are its words. -/
lemma Runs.cut (runs : Runs line words) (unmarked : '\x22' ∉ line) :
    cutWords false false line = some words := by
  induction runs with
  | nil => rfl
  | @blank c line runs blank rest ih =>
    rw [cutWords_blank blank, ih fun mark => unmarked (List.mem_cons_of_mem c mark)]
    rfl
  | @run run rest runs full solid stops others ih =>
    have held : ∀ c ∈ run, c ≠ '\x22' ∧ (false = true ∨ Text.isBlank c = false) := by
      refine fun c inside => ⟨?_, .inr (solid c inside)⟩
      rintro rfl
      exact unmarked (List.mem_append_left rest inside)
    have begun : cutWords false false (run ++ rest) = cutWords false true (run ++ rest) := by
      obtain ⟨c, run, rfl⟩ := List.exists_cons_of_ne_nil full
      obtain ⟨other, plain⟩ := held c List.mem_cons_self
      rw [List.cons_append, cutWords_inside other plain, cutWords_inside other plain]
    rw [begun, cutWords_append held, cutWords_over run stops,
      ih fun mark => unmarked (List.mem_append_right run mark)]
    rfl

/-- The words of a line without quotation marks are its runs. -/
lemma cutWords_eq_some_iff (unmarked : '\x22' ∉ line) :
    cutWords false false line = some words ↔ Runs line words := by
  refine ⟨fun cut => ?_, fun runs => runs.cut unmarked⟩
  obtain ⟨runs, found⟩ := exists_runs line
  cases cut.symm.trans (found.cut unmarked)
  exact found

/-! ## Words as texts -/

variable {text : String} {names : List String}

/-- The words of a text are those into which its characters are cut. -/
lemma words?_eq_some :
    words? text = some names ↔
      cutWords false false text.toList = some (names.map String.toList) := by
  rw [words?, Option.map_eq_some_iff]
  constructor
  · rintro ⟨words, cut, rfl⟩
    rw [cut, List.map_map]
    simp
  · intro cut
    refine ⟨_, cut, ?_⟩
    rw [List.map_map]
    simp

/-- A line has no words exactly if its quotation marks are odd in number. -/
lemma words?_eq_none : words? text = none ↔ Odd (text.toList.count '\x22') := by
  rw [words?, Option.map_eq_none_iff, cutWords_eq_none, ← Nat.not_even_iff_odd,
    Bool.false_eq_true, false_iff]

/-- There is no quotation mark in a word. -/
lemma not_mem_of_words? (found : words? text = some names) :
    ∀ name ∈ names, '\x22' ∉ name.toList := by
  have unmarked := not_mem_of_cutWords (words?_eq_some.mp found)
  exact fun name member => unmarked name.toList (List.mem_map_of_mem member)

end UseCase.CommandLine
