import Mathlib.Data.List.DropRight
import UseCase.Proofs.Matching
import UseCase.Sample

/-!
# Index numbers of names

The stem of a name lacks the digits at its very end, the index number of the name (`number`). A
blank behind the digits or between two of them ends the number: "Line 1 2" has the number 2 and
"Line1 " has none, while "Line 12" has the number 12 and "Line1" the number 1. So spellings of a
name that differ in blanks only have the same stem, blanks apart, just if they have the same number.

The main statement `stem_of_spellings` says so, and that the same holds for what anchors match. The
two pairs of spellings above are those of `line_not_matched`.
-/

namespace UseCase

namespace Text

variable {text : List Char}

/-- Texts lose their blanks each by itself. -/
lemma compact_append (front back : List Char) :
    compact (front ++ back) = compact front ++ compact back := by
  unfold compact
  exact List.filter_append front back

/-- A text is what is left of it and the run that was taken from its end. -/
lemma dropEnd_append (p : Char → Bool) (text : List Char) :
    dropEnd p text ++ text.rtakeWhile p = text :=
  List.rdropWhile_append_rtakeWhile

/-- A text is blank exactly if nothing is left when its end is trimmed. -/
lemma compact_eq_nil : compact text = [] ↔ trimEnd text = [] := by
  have dropped : trimEnd text = [] ↔ ∀ c ∈ text, isBlank c = true := List.rdropWhile_eq_nil_iff
  rw [dropped, compact, List.filter_eq_nil_iff]
  simp

/-- Nothing is left of blanks. -/
lemma compact_of_blank (blank : ∀ c ∈ text, isBlank c = true) : compact text = [] := by
  rw [compact, List.filter_eq_nil_iff]
  intro c member
  simp [blank c member]

/-- A text without blanks stays as it is. -/
lemma compact_of_not_blank (blank : ∀ c ∈ text, isBlank c = false) : compact text = text := by
  rw [compact, List.filter_eq_self]
  intro c member
  simp [blank c member]

/-- The blanks at the end may be dropped first. -/
lemma compact_trimEnd (text : List Char) : compact (trimEnd text) = compact text := by
  have blank := compact_of_blank fun c => List.mem_rtakeWhile_imp (p := isBlank) (l := text)
  have whole := congrArg compact (dropEnd_append isBlank text)
  rwa [compact_append, blank, List.append_nil] at whole

/-- Without its blanks a text has none to lose. -/
lemma compact_compact (text : List Char) : compact (compact text) = compact text := by
  apply compact_of_not_blank
  intro c member
  simpa using (List.mem_filter.mp member).2

end Text

namespace Name

variable {name a b : String}

/-- The digits at the end of a name, unless there is nothing but blanks before them. -/
def number (name : String) : List Char :=
  if Text.compact (Text.dropEnd isDigit name.toList) = [] then []
  else name.toList.rtakeWhile isDigit

/-- A digit is no blank. -/
lemma isBlank_of_isDigit {c : Char} (digit : isDigit c = true) : Text.isBlank c = false := by
  obtain ⟨low, high⟩ := Bool.and_eq_true_iff.mp digit
  have low : 48 ≤ c.toNat := of_decide_eq_true low
  have high : c.toNat ≤ 57 := of_decide_eq_true high
  simp only [Text.isBlank]
  grind

/-- The characters of a key are those of the name that are no blanks. -/
lemma toList_key (name : String) : (key name).toList = Text.compact name.toList :=
  String.toList_ofList

/-- A key is its own key. -/
lemma key_key (name : String) : key (key name) = key name := by
  rw [key, toList_key, Text.compact_compact]
  rfl

/-- The digits at the end of a name are no blanks. -/
lemma compact_eq (name : String) : Text.compact name.toList =
    Text.compact (Text.dropEnd isDigit name.toList) ++ name.toList.rtakeWhile isDigit := by
  have digits : Text.compact (name.toList.rtakeWhile isDigit) = name.toList.rtakeWhile isDigit :=
    Text.compact_of_not_blank fun _ member =>
      isBlank_of_isDigit (List.mem_rtakeWhile_imp member)
  have whole := congrArg Text.compact (Text.dropEnd_append isDigit name.toList)
  rwa [Text.compact_append, digits, eq_comm] at whole

/-- A name without digits at its end, or with nothing but blanks before them, has no number. -/
lemma number_eq_nil (alone : (Text.dropEnd isDigit name.toList).length = name.toList.length ∨
    Text.trimEnd (Text.dropEnd isDigit name.toList) = []) : number name = [] := by
  unfold number
  split
  · rfl
  · rename_i some
    have same := alone.resolve_right fun blank => some (Text.compact_eq_nil.mpr blank)
    have whole := congrArg List.length (Text.dropEnd_append isDigit name.toList)
    rw [List.length_append, same] at whole
    exact List.eq_nil_of_length_eq_zero (Nat.add_eq_left.mp whole)

/-- Without blanks a name is its stem and its number. -/
lemma stemKey_append_number (name : String) :
    (stemKey name).toList ++ number name = (key name).toList := by
  unfold stemKey stem
  simp only []
  split
  · rename_i alone
    rw [number_eq_nil alone, List.append_nil]
  · rename_i numbered
    rw [not_or, ← Text.compact_eq_nil] at numbered
    rw [number, if_neg numbered.2, toList_key, toList_key, String.toList_ofList,
      Text.compact_trimEnd, compact_eq name]

/-- Names with the same key have the same stem exactly if they have the same number. -/
lemma stemKey_eq_iff (alike : key a = key b) : stemKey a = stemKey b ↔ number a = number b := by
  have whole := (stemKey_append_number a).trans
    ((congrArg String.toList alike).trans (stemKey_append_number b).symm)
  constructor
  · intro same
    rw [same] at whole
    exact List.append_cancel_left whole
  · intro same
    rw [same] at whole
    exact String.toList_inj.mp (List.append_cancel_right whole)

/-- No blank stands behind the digits at the end of a name or between two of them. -/
def EndsTogether (name : String) : Prop :=
  (key name).toList.rtakeWhile isDigit = name.toList.rtakeWhile isDigit

/-- Whether the digits at the end of a name stand together can be decided. -/
instance (name : String) : Decidable (EndsTogether name) :=
  inferInstanceAs (Decidable (_ = _))

/-- Such a name has the same number without its blanks. -/
lemma number_key (together : EndsTogether name) : number (key name) = number name := by
  have front : Text.dropEnd isDigit (key name).toList =
      Text.compact (Text.dropEnd isDigit name.toList) := by
    apply List.append_cancel_right
    calc Text.dropEnd isDigit (key name).toList ++ name.toList.rtakeWhile isDigit
        = (key name).toList := by
          rw [← together]
          exact Text.dropEnd_append isDigit (key name).toList
      _ = Text.compact name.toList := toList_key name
      _ = Text.compact (Text.dropEnd isDigit name.toList) ++ name.toList.rtakeWhile isDigit :=
          compact_eq name
  rw [number, number, front, Text.compact_compact, together]

/-- Names with the same key whose digits stand together have the same number. -/
lemma number_eq_of_together (alike : key a = key b) (here : EndsTogether a)
    (there : EndsTogether b) : number a = number b := by
  rw [← number_key here, ← number_key there, alike]

end Name

namespace Lookup

open Name (key stemKey number EndsTogether)

variable {e f : Entity}

/-- An entity in the place of one that is addressed like it changes no positions. -/
lemma positions_respelled {p : Entity → Bool} (same : p e = p f) (before after : List Entity) :
    positions p (before ++ e :: after) = positions p (before ++ f :: after) := by
  simp only [positions, List.zipIdx_append, List.zipIdx_cons, List.filter_append, List.filter_cons,
    List.map_append, same]
  split
  · rw [List.map_cons, List.map_cons]
  · rfl

/-- An entity in the place of one that is addressed like it does not change which comes first. -/
lemma findIdx?_respelled {p : Entity → Bool} (same : p e = p f) (before after : List Entity) :
    (before ++ e :: after).findIdx? p = (before ++ f :: after).findIdx? p := by
  rw [List.findIdx?_append, List.findIdx?_append, List.findIdx?_cons, List.findIdx?_cons, same]

/-- A spelling with the same number matches the same anchors. -/
lemma matching_respelled {anchor : String} (alike : key e.name = key f.name)
    (numbered : number e.name = number f.name) (inexact : e.name ≠ anchor)
    (inexact' : f.name ≠ anchor) (before after : List Entity) :
    matching (before ++ e :: after) anchor = matching (before ++ f :: after) anchor := by
  have named : (before ++ e :: after).findIdx? (fun g => g.name == anchor) =
      (before ++ f :: after).findIdx? fun g => g.name == anchor := by
    apply findIdx?_respelled
    rw [beq_false_of_ne inexact, beq_false_of_ne inexact']
  have spelled : positions (fun g => key g.name == key anchor) (before ++ e :: after) =
      positions (fun g => key g.name == key anchor) (before ++ f :: after) := by
    apply positions_respelled
    rw [alike]
  have stemmed : positions (fun g => stemKey g.name == key anchor) (before ++ e :: after) =
      positions (fun g => stemKey g.name == key anchor) (before ++ f :: after) := by
    apply positions_respelled
    rw [(Name.stemKey_eq_iff alike).mpr numbered]
  simp only [matching, named, spelled, stemmed]

/-- The only entity of a kind matches an anchor if its key or that of its stem is the anchor's. -/
lemma matching_single {anchor : String} (inexact : e.name ≠ anchor) :
    matching [e] anchor =
      if key e.name = key anchor ∨ stemKey e.name = key anchor then [0] else [] := by
  have none : [e].findIdx? (fun e => e.name == anchor) = none := by
    rw [List.findIdx?_eq_none_iff]
    exact List.forall_mem_singleton.mpr (beq_false_of_ne inexact)
  by_cases spelled : key e.name = key anchor
  · simp [matching, none, positions, spelled]
  · by_cases stemmed : stemKey e.name = key anchor
    · simp [matching, none, positions, spelled, stemmed]
    · simp [matching, none, positions, spelled, stemmed]

/-- The stem of a name with a number is an anchor that a spelling with another number does not
match. -/
lemma number_eq_of_matching (alike : key e.name = key f.name) (numbered : number e.name ≠ [])
    (same : ∀ anchor, e.name ≠ anchor → f.name ≠ anchor →
      matching [e] anchor = matching [f] anchor) : number e.name = number f.name := by
  have own : key (stemKey e.name) = stemKey e.name := Name.key_key (Name.stem e.name)
  have longer : key e.name ≠ stemKey e.name := by
    intro short
    have whole := Name.stemKey_append_number e.name
    rw [short] at whole
    exact numbered (List.append_right_eq_self.mp whole)
  have here : e.name ≠ stemKey e.name := by
    intro named
    rw [← named] at own
    exact longer (own.trans named)
  have there : f.name ≠ stemKey e.name := by
    intro named
    rw [← named, ← alike, named] at own
    exact longer own
  have matched := same (stemKey e.name) here there
  rw [matching_single here, matching_single there, own, if_pos (.inr rfl), ← alike] at matched
  split at matched
  · rename_i found
    exact (Name.stemKey_eq_iff alike).mp (found.resolve_left longer).symm
  · cases matched

/-- Spellings of a name that differ in blanks only have the same number if no blank stands among the
digits at the end or behind them. They have the same stem, blanks apart, just if they have the same
number; then they match the same anchors, whatever stands beside them, but for the spellings
themselves, and else not. -/
theorem stem_of_spellings {e f : Entity} (alike : key e.name = key f.name) :
    (EndsTogether e.name → EndsTogether f.name → number e.name = number f.name) ∧
    (stemKey e.name = stemKey f.name ↔ number e.name = number f.name) ∧
    ((∀ before after anchor, e.name ≠ anchor → f.name ≠ anchor →
        matching (before ++ e :: after) anchor = matching (before ++ f :: after) anchor) ↔
      number e.name = number f.name) := by
  refine ⟨Name.number_eq_of_together alike, Name.stemKey_eq_iff alike, ?_, ?_⟩
  · intro same
    have alone := same [] []
    by_cases bare : number e.name = []
    · by_cases bare' : number f.name = []
      · rw [bare, bare']
      · refine (number_eq_of_matching alike.symm bare' ?_).symm
        intro anchor inexact inexact'
        exact (alone anchor inexact' inexact).symm
    · exact number_eq_of_matching alike bare alone
  · intro numbered before after anchor inexact inexact'
    exact matching_respelled alike numbered inexact inexact' before after

/-- Blanks in front of the number do not matter. -/
theorem line_one_respelled :
    let plain (name : String) : Entity := Entity.plain .device name
    key "Line 1" = key "Line1" ∧ number "Line 1" = number "Line1" ∧
      stemKey "Line 1" = stemKey "Line1" ∧ stemKey "Line 1" = "Line" ∧
      matching [plain "HDMI", plain "Line 1", plain "Li ne 12"] "L ine" =
        matching [plain "HDMI", plain "Line1", plain "Li ne 12"] "L ine" ∧
      matching [plain "HDMI", plain "Line1", plain "Li ne 12"] "L ine" = [1, 2] := by
  intro plain
  have alike : key (plain "Line 1").name = key (plain "Line1").name := by decide
  obtain ⟨numbers, stems, matched⟩ := stem_of_spellings alike
  have numbered : number "Line 1" = number "Line1" := numbers (by decide) (by decide)
  have same := matched.mpr numbered [plain "HDMI"] [plain "Li ne 12"] "L ine" (by decide)
    (by decide)
  exact ⟨alike, numbered, stems.mpr numbered, by decide, same, by decide⟩

/-- A blank behind the number or inside it hides the stem. -/
theorem line_not_matched :
    let card (name : String) : Card :=
      { Sample.card with
        verbs := [{ Verb.plain "HiFi" with devices := [Entity.plain .device name] }] }
    let found (name : String) := anchorEntity (card name) .fresh (.named "HiFi") ⟨.any, "Line"⟩
    key "Line1 " = key "Line1" ∧ stemKey "Line1 " ≠ stemKey "Line1" ∧
      (card "Line1").validate = .ok () ∧ found "Line1" = .ok (Entity.plain .device "Line1") ∧
      (card "Line1 ").validate = .ok () ∧
      found "Line1 " = .error (.notFound (.anchor "Line" "HiFi")) ∧
      key "Line 1 2" = key "Line 12" ∧ stemKey "Line 1 2" ≠ stemKey "Line 12" ∧
      found "Line 12" = .ok (Entity.plain .device "Line 12") ∧
      found "Line 1 2" = .error (.notFound (.anchor "Line" "HiFi")) :=
  ⟨by decide, by decide, by rfl, by rfl, by rfl, by rfl, by decide, by decide, by rfl, by rfl⟩

end Lookup

end UseCase
