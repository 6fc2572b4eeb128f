import Mathlib.Tactic.Common
import UseCase.Toml.Quoted

/-!
# Quoted texts

What a reader makes of a text that was put between quotation marks. A character stands there for
itself, behind a backslash or as the digits of its code; a reader looks for the end of the line
first and only then takes the escapes back, so both have to pass over such a form as a whole.
-/

namespace UseCase.Toml

/-- A character that stands for itself between quotation marks. -/
def isSilent (c : Char) : Bool :=
  isPlain c && c != basicMark && c != '\\'

/-- How a character stands between quotation marks. -/
inductive Written : Char → List Char → Prop
  | silent {c : Char} : isSilent c → Written c [c]
  | short {c d : Char} : isPlain d → shortEscape? d = some c → Written c ['\\', d]
  | digits {c a₁ a₂ a₃ a₄ : Char} : codePoint? [a₁, a₂, a₃, a₄] = some c →
    (∀ a ∈ [a₁, a₂, a₃, a₄], isSilent a) → Written c ['\\', 'u', a₁, a₂, a₃, a₄]

/-- The only characters without a form of their own are control characters. -/
lemma codePoint?_hexadecimal {n : Nat} (control : n < 128) :
    let digits := (Text.hexadecimal 4 n).toList
    digits.length = 4 ∧ codePoint? digits = some (Char.ofNat n) ∧ ∀ a ∈ digits, isSilent a := by
  have checked : (List.range 128).all (fun n =>
      let digits := (Text.hexadecimal 4 n).toList
      digits.length == 4 && codePoint? digits == some (Char.ofNat n) && digits.all isSilent) := by
    decide +kernel
  have this := List.all_eq_true.mp checked n (List.mem_range.mpr control)
  simpa only [Bool.and_eq_true, beq_iff_eq, List.all_eq_true, and_assoc] using this

/-- What a character is escaped to stands for it. -/
lemma written_escape (c : Char) : Written c (escape c) := by
  rw [escape]
  split_ifs with mark backslash feed tab back plain
  · subst mark
    exact .short rfl rfl
  · subst backslash
    exact .short rfl rfl
  · subst feed
    exact .short rfl rfl
  · subst tab
    exact .short rfl rfl
  · subst back
    exact .short rfl rfl
  · refine .silent ?_
    rw [isSilent, plain, Bool.true_and, Bool.and_eq_true, bne_iff_ne, bne_iff_ne]
    exact ⟨mark, backslash⟩
  · have control : c.toNat < 128 := by
      simp only [isPlain, Bool.or_eq_true, Bool.and_eq_true, decide_eq_true_eq, bne_iff_ne] at plain
      omega
    obtain ⟨four, point, silent⟩ := codePoint?_hexadecimal control
    generalize (Text.hexadecimal 4 c.toNat).toList = digits at four point silent
    match digits, four with
    | [a₁, a₂, a₃, a₄], _ => exact .digits (point.trans (by rw [Char.ofNat_toNat])) silent

/-- A character that stands for itself goes on a line of a quotation. -/
lemma takeLine_silent {c : Char} (silent : isSilent c) (rest : List Char) :
    takeLine basicMark true (c :: rest) =
      (takeLine basicMark true rest).map fun (content, after) => (c :: content, after) := by
  simp only [isSilent, Bool.and_eq_true, bne_iff_ne] at silent
  obtain ⟨⟨plain, other⟩, same⟩ := silent
  rw [takeLine.eq_def]
  simp [same, other, plain]

/-- A backslash takes the character behind it along. -/
lemma takeLine_escaped {d : Char} (plain : isPlain d) (rest : List Char) :
    takeLine basicMark true ('\\' :: d :: rest) =
      (takeLine basicMark true rest).map fun (content, after) => ('\\' :: d :: content, after) := by
  have backslash : isPlain '\\' = true := rfl
  have other : '\\' ≠ basicMark := by decide
  rw [takeLine.eq_def]
  simp [plain, backslash, other]

/-- What stands for a character is taken as a whole. -/
lemma Written.takeLine {c : Char} {cs : List Char} (written : Written c cs) (rest : List Char) :
    takeLine basicMark true (cs ++ rest) =
      (takeLine basicMark true rest).map fun (content, after) => (cs ++ content, after) := by
  cases written with
  | silent silent => exact takeLine_silent silent rest
  | short plain _ => exact takeLine_escaped plain rest
  | digits _ silent =>
    simp only [List.forall_mem_cons, List.not_mem_nil, false_implies, implies_true, and_true]
      at silent
    obtain ⟨s₁, s₂, s₃, s₄⟩ := silent
    have u : isPlain 'u' = true := rfl
    simp only [List.cons_append, List.nil_append, takeLine_escaped u, takeLine_silent, s₁, s₂, s₃,
      s₄, Option.map_map]
    rfl

/-- A character that stands for itself is read as itself. -/
lemma unescape_silent {c : Char} (silent : isSilent c) (rest : List Char) :
    unescape false (c :: rest) = (unescape false rest).map (c :: ·) := by
  simp only [isSilent, Bool.and_eq_true, bne_iff_ne] at silent
  rw [unescape.eq_def]
  simp [silent]

/-- A short escape is read as its character. -/
lemma unescape_short {d c : Char} (short : shortEscape? d = some c) (rest : List Char) :
    unescape false ('\\' :: d :: rest) = (unescape false rest).map (c :: ·) := by
  unfold shortEscape? at short
  rw [unescape.eq_def]
  split at short <;> cases short <;> simp [prepend, shortEscape?, isGap, isSpace]

/-- Four digits behind `u` are read as the character with this number. -/
lemma unescape_digits (a₁ a₂ a₃ a₄ : Char) (rest : List Char) :
    unescape false ('\\' :: 'u' :: a₁ :: a₂ :: a₃ :: a₄ :: rest) =
      prepend (codePoint? [a₁, a₂, a₃, a₄]) (unescape false rest) := by
  rw [unescape.eq_def]
  simp

/-- What stands for a character is read as it. -/
lemma Written.unescape {c : Char} {cs : List Char} (written : Written c cs) (rest : List Char) :
    unescape false (cs ++ rest) = (unescape false rest).map (c :: ·) := by
  cases written with
  | silent silent => exact unescape_silent silent rest
  | short _ short => exact unescape_short short rest
  | digits point _ =>
    exact (unescape_digits _ _ _ _ rest).trans (by rw [point]; rfl)

/-- A text that was escaped is taken up to the mark behind it. -/
lemma takeLine_escape (cs rest : List Char) :
    takeLine basicMark true (cs.flatMap escape ++ basicMark :: rest) =
      some (cs.flatMap escape, rest) := by
  induction cs with
  | nil =>
    rw [List.flatMap_nil, List.nil_append, takeLine.eq_def]
    exact if_pos rfl
  | cons c cs ih =>
    rw [List.flatMap_cons, List.append_assoc, (written_escape c).takeLine, ih]
    rfl

/-- A text that was escaped is read as it was. -/
lemma unescape_escape (cs : List Char) : unescape false (cs.flatMap escape) = some cs := by
  induction cs with
  | nil => rfl
  | cons c cs ih => rw [List.flatMap_cons, (written_escape c).unescape, ih, Option.map_some]

/-- A line of a quotation is read as the text that was escaped. -/
lemma readLine_escape (s : String) (rest : List Char) :
    readLine basicMark (s.toList.flatMap escape ++ basicMark :: rest) = some (s, rest) := by
  rw [readLine]
  simp only [beq_self_eq_true, takeLine_escape, if_true, unescape_escape, Option.bind_eq_bind,
    Option.bind_some, Option.pure_def, String.ofList_toList]

/-- What stands for a character does not begin with the mark. -/
lemma Written.head_ne {c : Char} {cs : List Char} (written : Written c cs) :
    ∃ first others, cs = first :: others ∧ first ≠ basicMark := by
  cases written with
  | silent silent =>
    simp only [isSilent, Bool.and_eq_true, bne_iff_ne] at silent
    exact ⟨c, [], rfl, silent.1.2⟩
  | short _ _ => exact ⟨'\\', _, rfl, by decide⟩
  | digits _ _ => exact ⟨'\\', _, rfl, by decide⟩

/-- A quoted text does not begin like a text on several lines: the second mark would be the end of
an empty text, so no third one can follow. -/
lemma quote_ne_block (s : String) {rest : List Char} (apart : rest.head? ≠ some basicMark)
    (others : List Char) :
    quote s ++ rest ≠ basicMark :: basicMark :: basicMark :: others := by
  intro begins
  rw [quote, List.cons_append, List.append_assoc] at begins
  have inner := (List.cons.inj begins).2
  cases content : s.toList with
  | nil =>
    rw [content] at inner
    have after : rest = basicMark :: others := (List.cons.inj inner).2
    exact apart (by rw [after, List.head?_cons])
  | cons c cs =>
    obtain ⟨first, others, written, other⟩ := (written_escape c).head_ne
    rw [content, List.flatMap_cons, written] at inner
    exact other (List.cons.inj inner).1

/-- A text in quotation marks is read back, unless another mark follows. -/
theorem quoted?_quote (s : String) {rest : List Char} (apart : rest.head? ≠ some basicMark) :
    quoted? (quote s ++ rest) = some (s, rest) := by
  have line : quotedLine? (quote s ++ rest) = some (s, rest) := by
    rw [quote, List.cons_append, List.append_assoc, quotedLine?, if_pos (.inl rfl)]
    exact readLine_escape s rest
  rw [← line, quoted?.eq_def]
  split
  · rename_i a b c others begins
    refine if_neg ?_
    rintro ⟨-, second, third⟩
    have first : basicMark = a := (List.cons.inj begins).1
    rw [second, third, ← first] at begins
    exact quote_ne_block s apart others begins
  · rfl

end UseCase.Toml
