import Mathlib.Tactic.Common
import UseCase.Text.Split

/-!
# Pieces of texts

A text that is cut at every separator consists of its pieces: none of them contains the separator,
and pieces without it, joined by it, are found again. The first is shown here and the second is a
fact about `List.splitOn`, which cuts in the same way (`segments_eq_splitOn`).
-/

namespace UseCase.Text

variable {sep : Char} {text piece : List Char}

/-- A text is cut into the pieces of `List.splitOn`. -/
lemma segments_eq_splitOn (sep : Char) (text : List Char) :
    segments sep text = text.splitOn sep := by
  induction text with
  | nil => rfl
  | cons c rest ih =>
    rw [segments, ih, List.splitOn_cons_eq_if_modifyHead]
    by_cases here : c = sep
    · rw [if_pos here, if_pos (beq_iff_eq.mpr here)]
    · rw [if_neg here, if_neg fun same => here (beq_iff_eq.mp same)]
      cases cut : rest.splitOn sep with
      | nil => exact absurd cut (List.splitOn_ne_nil sep rest)
      | cons piece pieces => rfl

/-- A text has at least one segment. -/
lemma segments_ne_nil (sep : Char) (text : List Char) : segments sep text ≠ [] := by
  rw [segments_eq_splitOn]
  exact List.splitOn_ne_nil sep text

/-- The separator is in none of the pieces. -/
lemma not_mem_of_mem_segments (member : piece ∈ segments sep text) : sep ∉ piece := by
  induction text generalizing piece with
  | nil =>
    rw [segments, List.mem_singleton] at member
    rw [member]
    exact List.not_mem_nil
  | cons c rest ih =>
    rw [segments] at member
    split at member
    · rcases List.mem_cons.mp member with rfl | member
      · exact List.not_mem_nil
      · exact ih member
    · rename_i other
      -- The character joins the first piece of the rest.
      cases cut : segments sep rest with
      | nil =>
        rw [cut, List.mem_singleton] at member
        rw [member, List.mem_singleton]
        exact fun same => other same.symm
      | cons first others =>
        rw [cut] at member ih
        rcases List.mem_cons.mp member with rfl | member
        · refine fun inside => (List.mem_cons.mp inside).elim (fun same => other same.symm) ?_
          exact ih List.mem_cons_self
        · exact ih (List.mem_cons_of_mem first member)

/-- Pieces without the separator are found again after they were joined by it. -/
lemma segments_intercalate {pieces : List (List Char)} (whole : ∀ piece ∈ pieces, sep ∉ piece)
    (some : pieces ≠ []) : segments sep ([sep].intercalate pieces) = pieces := by
  rw [segments_eq_splitOn]
  exact List.splitOn_intercalate sep whole some

/-- The pieces joined by the separator are the text. -/
lemma intercalate_segments (sep : Char) (text : List Char) :
    [sep].intercalate (segments sep text) = text := by
  rw [segments_eq_splitOn]
  exact List.intercalate_splitOn sep

/-- A text without the separator is one piece. -/
lemma segments_whole (whole : sep ∉ text) : segments sep text = [text] := by
  have joined := segments_intercalate (List.forall_mem_singleton.mpr whole) (List.cons_ne_nil _ _)
  rwa [List.intercalate_singleton] at joined

/-- The pieces on both sides of a separator. -/
lemma segments_append (front back : List Char) :
    segments sep (front ++ sep :: back) = segments sep front ++ segments sep back := by
  induction front with
  | nil => simp [segments]
  | cons c front ih =>
    rw [List.cons_append, segments, segments, ih]
    split_ifs with here
    · rfl
    · cases first : segments sep front with
      | nil => exact absurd first (segments_ne_nil sep front)
      | cons piece pieces => rfl

/-- A text that is cut at a separator begins with a piece without it. -/
lemma cut_eq_some {front back : List Char} :
    cut sep text = some (front, back) ↔ text = front ++ sep :: back ∧ sep ∉ front := by
  induction text generalizing front with
  | nil => exact iff_of_false nofun fun ⟨joined, _⟩ => by cases front <;> cases joined
  | cons c rest ih =>
    rw [cut]
    split_ifs with here
    · subst here
      constructor
      · rintro ⟨⟩
        exact ⟨rfl, List.not_mem_nil⟩
      · rintro ⟨joined, whole⟩
        cases front with
        | nil =>
          cases joined
          rfl
        | cons d front =>
          cases joined
          exact absurd List.mem_cons_self whole
    · rw [Option.map_eq_some_iff]
      constructor
      · rintro ⟨⟨front, back⟩, found, ⟨⟩⟩
        obtain ⟨rfl, whole⟩ := ih.mp found
        exact ⟨rfl, fun inside => (List.mem_cons.mp inside).elim (fun same => here same.symm) whole⟩
      · rintro ⟨joined, whole⟩
        cases front with
        | nil =>
          cases joined
          exact absurd rfl here
        | cons d front =>
          cases joined
          exact ⟨(front, back), ih.mpr ⟨rfl, fun inside => whole (List.mem_cons_of_mem _ inside)⟩,
            rfl⟩

/-- The characters of two words with a slash are theirs with a slash. -/
lemma toList_behind (word rest : String) :
    (word ++ "/" ++ rest).toList = word.toList ++ '/' :: rest.toList := by
  rw [String.toList_append, String.toList_append, List.append_assoc]
  rfl

/-- A text is cut behind the word in front of it. -/
lemma cut_behind {word : String} (whole : '/' ∉ word.toList) (rest : String) :
    cut '/' (word ++ "/" ++ rest).toList = some (word.toList, rest.toList) := by
  rw [cut_eq_some, toList_behind]
  exact ⟨rfl, whole⟩

/-- What follows the start of a text. -/
lemma after?_eq_some {start rest : List Char} :
    after? start text = some rest ↔ text = start ++ rest := by
  induction start generalizing text with
  | nil => exact Option.some_inj
  | cons s start ih =>
    cases text with
    | nil => exact iff_of_false nofun nofun
    | cons c text =>
      rw [after?, List.cons_append, List.cons_eq_cons]
      split_ifs with same
      · rw [ih, and_iff_right same.symm]
      · exact iff_of_false nofun fun joined => same joined.1.symm

end UseCase.Text
