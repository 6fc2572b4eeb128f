import UseCase.Catalog
import UseCase.Proofs.Splitting

/-!
# Joined paths and the parts of names

What a path below another one looks like when its last segment is a single name: its segments are
those of the path above, without an empty one at the end, and the name. A name consists of its stem
and its extension exactly if it is the stem, a dot and the extension. A name that is no text stands
behind a path as it is.
-/

namespace UseCase.Path

variable {base name : String}

/-- A text that can be one segment of a path. -/
def IsSegment (name : String) : Prop :=
  '/' ∉ name.toList

/-- Whether a text can be one segment can be decided. -/
instance : DecidablePred IsSegment := fun name =>
  inferInstanceAs (Decidable ('/' ∉ name.toList))

/-- A segment is no absolute path. -/
lemma IsSegment.not_absolute (segment : IsSegment name) : isAbsolute name = false := by
  rw [isAbsolute, beq_eq_false_iff_ne]
  intro first
  exact segment (List.mem_of_mem_head? first)

/-- A single segment is all that there is on its path. -/
lemma segments_of_isSegment (segment : IsSegment name) : segments name = [name] := by
  rw [segments, Text.segments_whole segment, List.map_singleton, String.ofList_toList]

/-- What stands between a path and a name below it. -/
def separator (base : String) : String :=
  if base.toList.getLast? = some '/' then "" else "/"

/-- A segment below a path stands behind the path and a separator. -/
lemma join_eq (segment : IsSegment name) (full : base ≠ "") :
    join base name = base ++ separator base ++ name := by
  have nonempty : base.isEmpty = false := by
    rw [Bool.eq_false_iff, Ne, String.isEmpty_iff]
    exact full
  rw [join, segment.not_absolute, if_neg Bool.false_ne_true, nonempty, Bool.false_or, separator]
  by_cases ends : base.toList.getLast? = some '/'
  · rw [if_pos (beq_iff_eq.mpr ends), if_pos ends, String.append_empty]
  · rw [if_neg fun last => ends (beq_iff_eq.mp last), if_neg ends]

/-- A path below another one has characters. -/
lemma join_ne_empty (segment : IsSegment name) (full : base ≠ "") : join base name ≠ "" := by
  rw [join_eq segment full, String.append_assoc, Ne, String.append_eq_empty_iff]
  exact fun both => full both.1

/-- A segment below the empty path is that segment. -/
lemma join_empty (segment : IsSegment name) : join "" name = name := by
  rw [join, segment.not_absolute]
  rfl

/-- A slash separates the segments in front of it from those behind. -/
lemma segments_slash (base name : String) :
    segments (base ++ "/" ++ name) = segments base ++ segments name := by
  have text : (base ++ "/" ++ name).toList = base.toList ++ '/' :: name.toList := by
    rw [String.toList_append, String.toList_append, List.append_assoc]
    rfl
  rw [segments, text, Text.segments_append, List.map_append]
  rfl

/-- A path below another one has its segments, without an empty one at the end, and the name. -/
lemma segments_join (segment : IsSegment name) (full : base ≠ "") :
    ∃ lead, segments (join base name) = lead ++ [name] ∧
      (segments base = lead ∨ segments base = lead ++ [""]) := by
  rw [join_eq segment full, separator]
  split_ifs with ends
  · obtain ⟨front, whole⟩ := List.getLast?_eq_some_iff.mp ends
    have slash : base = String.ofList front ++ "/" ++ "" := by
      rw [← String.toList_inj, whole, String.append_empty, String.toList_append,
        String.toList_ofList]
      rfl
    refine ⟨segments (String.ofList front), ?_, .inr ?_⟩
    · rw [slash, String.append_empty, String.append_empty, segments_slash,
        segments_of_isSegment segment]
    · rw [slash, segments_slash]
      rfl
  · exact ⟨segments base, by rw [segments_slash, segments_of_isSegment segment], .inl rfl⟩

/-- A path below an absolute one is absolute, and no other. -/
lemma isAbsolute_join (segment : IsSegment name) (full : base ≠ "") :
    isAbsolute (join base name) = isAbsolute base := by
  rw [join_eq segment full, isAbsolute, isAbsolute, String.append_assoc, String.toList_append]
  cases chars : base.toList with
  | nil => exact absurd (String.toList_eq_nil_iff.mp chars) full
  | cons c rest => rfl

/-- The name of a file is the last segment of its path. -/
lemma fileName_join (segment : IsSegment name) (busy : isIdle name = false) (base : String) :
    fileName (join base name) = name := by
  have last (lead : List String) (ends : segments (join base name) = lead ++ [name]) :
      fileName (join base name) = name := by
    simp [fileName, parts, ends, busy]
  by_cases empty : base = ""
  · subst empty
    refine last [] ?_
    rw [join_empty segment, segments_of_isSegment segment, List.nil_append]
  · obtain ⟨lead, ends, -⟩ := segments_join segment empty
    exact last lead ends

/-- A name is cut at its last dot. -/
lemma cutLastDot_eq_some {name stem extension : List Char} :
    cutLastDot name = some (stem, extension) ↔
      name = stem ++ '.' :: extension ∧ '.' ∉ extension := by
  have turned : name = stem ++ '.' :: extension ↔
      name.reverse = extension.reverse ++ '.' :: stem.reverse := by
    rw [← List.reverse_inj, List.reverse_append, List.reverse_cons, List.append_assoc]
    rfl
  rw [turned, ← List.mem_reverse, ← Text.cut_eq_some, cutLastDot, Option.map_eq_some_iff]
  constructor
  · rintro ⟨⟨back, front⟩, found, same⟩
    obtain ⟨rfl, rfl⟩ := Prod.mk.inj same
    rw [found, List.reverse_reverse, List.reverse_reverse]
  · intro found
    refine ⟨_, found, ?_⟩
    simp only [List.reverse_reverse]

/-- A name has a stem and an extension exactly if it is both with a dot in between. -/
lemma splitName_eq_some {name stem extension : String} :
    splitName name = (stem, some extension) ↔
      name = stem ++ "." ++ extension ∧ stem ≠ "" ∧ '.' ∉ extension.toList := by
  have whole : name = stem ++ "." ++ extension ↔
      name.toList = stem.toList ++ '.' :: extension.toList := by
    rw [← String.toList_inj, String.toList_append, String.toList_append, List.append_assoc]
    rfl
  rw [whole, splitName]
  split
  · rename_i dotless
    refine iff_of_false (fun same => by cases (Prod.mk.inj same).2) ?_
    rintro ⟨joined, -, last⟩
    rw [cutLastDot_eq_some.mpr ⟨joined, last⟩] at dotless
    cases dotless
  · rename_i first
    refine iff_of_false (fun same => by cases (Prod.mk.inj same).2) ?_
    rintro ⟨joined, full, last⟩
    rw [cutLastDot_eq_some.mpr ⟨joined, last⟩] at first
    exact full (String.toList_eq_nil_iff.mp (Prod.mk.inj (Option.some.inj first)).1)
  · rename_i front back full found
    constructor
    · intro same
      obtain ⟨rfl, same⟩ := Prod.mk.inj same
      cases same
      rw [String.toList_ofList, String.toList_ofList]
      obtain ⟨joined, last⟩ := cutLastDot_eq_some.mp found
      refine ⟨joined, fun none => ?_, last⟩
      rw [← String.toList_eq_nil_iff, String.toList_ofList] at none
      exact full none
    · rintro ⟨joined, -, last⟩
      rw [cutLastDot_eq_some.mpr ⟨joined, last⟩] at found
      cases found
      rw [String.ofList_toList, String.ofList_toList]

end UseCase.Path

namespace UseCase

namespace FileName

/-- A name that can be one segment of a path. -/
def IsSegment : FileName → Prop
  | text name => Path.IsSegment name
  | foreign _ => True

/-- Whether a name can be one segment of a path can be decided. -/
instance : DecidablePred IsSegment
  | text name => inferInstanceAs (Decidable (Path.IsSegment name))
  | foreign _ => inferInstanceAs (Decidable True)

/-- A name that an entry of a directory can have: one segment that leads to the entry. -/
structure IsName (name : FileName) : Prop where
  segment : name.IsSegment
  busy : name.isIdle = false
  down : name ≠ ".."

/-- Whether a name is one that an entry can have can be decided. -/
instance : DecidablePred IsName := fun name =>
  decidable_of_iff (name.IsSegment ∧ name.isIdle = false ∧ name ≠ "..")
    ⟨fun h => ⟨h.1, h.2.1, h.2.2⟩, fun h => ⟨h.segment, h.busy, h.down⟩⟩

/-- A proper name has characters. -/
lemma IsName.ne_empty {name : String} (proper : IsName name) : name ≠ "" := by
  rintro rfl
  cases proper.busy

end FileName

namespace FilePath

/-- A path that is a text has the segments of that text. -/
lemma segments_text (path : String) :
    (path : FilePath).segments = (Path.segments path).map .text :=
  List.append_nil _

/-- A path that is a text is empty only as the empty text. -/
lemma isEmpty_text {path : String} : (path : FilePath).isEmpty = false ↔ path ≠ "" := by
  rw [isEmpty, Option.isNone_none, Bool.and_true, Bool.eq_false_iff, Ne, String.isEmpty_iff]

end FilePath

end UseCase
