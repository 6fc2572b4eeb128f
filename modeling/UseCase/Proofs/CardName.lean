import UseCase.Loader
import UseCase.Proofs.Numeral
import UseCase.Proofs.Splitting

/-!
# Written card names

`WrittenAs` says which texts stand for which card name. All sorts but the index are written in one
way only; an index may have a plus sign and zeros in front, which its text leaves out.

The main statement `parse_text` is that the text of a card name that was read is read as the same
card name, that it is the original text but for the sign and the zeros of an index, and that no
texts are refused but the three that name nothing.
-/

namespace UseCase.CardName

variable {n : Nat} {text : String} {name : CardName}

/-- The texts for an index. -/
def Indexes (n : Nat) (text : String) : Prop :=
  n < indexBound ∧ ∃ numeral, Text.Numeral n numeral ∧ text = "hw:" ++ String.ofList numeral

/-- The texts for a card name. -/
inductive WrittenAs : CardName → String → Prop
  | named {name : String} : name ≠ "" → ¬ "strict:".toList <+: name.toList →
    ¬ "hw:".toList <+: name.toList → WrittenAs (.named name) name
  | strict {name : String} : name ≠ "" → WrittenAs (.strict name) ("strict:" ++ name)
  | index {n : Nat} {text : String} : Indexes n text → WrittenAs (.index n) text
  | identifier {id : String} : id ≠ "" → (∀ n, ¬ Indexes n ("hw:" ++ id)) →
    WrittenAs (.identifier id) ("hw:" ++ id)

/-! ## Reading -/

/-- What follows `hw:` is an index exactly if it is a number below the bound. -/
lemma indexes_append {id : String} :
    Indexes n ("hw:" ++ id) ↔ Text.natural? indexBound id.toList = some n := by
  rw [Text.natural?_eq_some]
  refine and_congr_right fun _ => ⟨?_, fun numeral => ⟨_, numeral, by rw [String.ofList_toList]⟩⟩
  rintro ⟨numeral, written, same⟩
  rw [← String.toList_inj, String.toList_append, String.toList_append, List.append_cancel_left_eq,
    String.toList_ofList] at same
  rwa [same]

/-- An index is what follows `hw:` if that is a numeral in range. -/
lemma hardware_cases (id : String) :
    (∃ n, Indexes n ("hw:" ++ id) ∧ hardware id.toList = .index n) ∨
      ((∀ n, ¬ Indexes n ("hw:" ++ id)) ∧ hardware id.toList = .identifier id) := by
  rw [hardware]
  cases read : Text.natural? indexBound id.toList with
  | some n => exact .inl ⟨n, indexes_append.mpr read, rfl⟩
  | none =>
    refine .inr ⟨fun n indexes => ?_, congrArg identifier String.ofList_toList⟩
    cases read.symm.trans (indexes_append.mp indexes)

/-- A text with the mark of strict names is a strict name. -/
lemma classify_strict (name : String) : classify ("strict:" ++ name) = .strict name := by
  have found : Text.after? "strict:".toList ("strict:" ++ name).toList = some name.toList := by
    rw [String.toList_append, Text.after?_eq_some]
  rw [classify, found]
  exact congrArg strict String.ofList_toList

/-- A text with the mark of hardware names an index or an identifier. -/
lemma classify_hardware (id : String) : classify ("hw:" ++ id) = hardware id.toList := by
  have other : Text.after? "strict:".toList ("hw:" ++ id).toList = none := by
    rw [String.toList_append]
    rfl
  have found : Text.after? "hw:".toList ("hw:" ++ id).toList = some id.toList := by
    rw [String.toList_append, Text.after?_eq_some]
  rw [classify, other]
  simp only [found]

/-- A mark that does not stand in front is not taken off. -/
lemma after?_eq_none {start : List Char} (other : ¬ start <+: text.toList) :
    Text.after? start text.toList = none := by
  cases found : Text.after? start text.toList with
  | none => rfl
  | some rest => exact absurd ⟨rest, (Text.after?_eq_some.mp found).symm⟩ other

/-- What begins in neither way is a name. -/
lemma classify_named (unstrict : ¬ "strict:".toList <+: text.toList)
    (unhard : ¬ "hw:".toList <+: text.toList) : classify text = .named text := by
  rw [classify, after?_eq_none unstrict]
  simp only [after?_eq_none unhard]

/-- The three sorts of texts. -/
lemma classify_cases (text : String) :
    (∃ name, text = "strict:" ++ name) ∨ (∃ id, text = "hw:" ++ id) ∨
      ¬ "strict:".toList <+: text.toList ∧ ¬ "hw:".toList <+: text.toList := by
  have begun : ∀ start : String, start.toList <+: text.toList → ∃ rest, text = start ++ rest := by
    rintro start ⟨rest, joined⟩
    refine ⟨String.ofList rest, ?_⟩
    rw [← String.toList_inj, String.toList_append, String.toList_ofList, joined]
  by_cases strict : "strict:".toList <+: text.toList
  · exact .inl (begun _ strict)
  · by_cases hard : "hw:".toList <+: text.toList
    · exact .inr (.inl (begun _ hard))
    · exact .inr (.inr ⟨strict, hard⟩)

/-- Every text is the card name by which it is classified, unless that has no name in it. -/
lemma parse_eq (text : String) :
    parse text =
      if (classify text).isEmpty then .error (.invalid (.emptyCard text))
      else .ok (classify text) := by
  rw [parse, ofText?]
  split_ifs <;> rfl

/-- A text that has characters is not empty. -/
lemma isEmpty_eq_false {name : String} (full : name ≠ "") : name.isEmpty = false :=
  Bool.eq_false_iff.mpr fun empty => full (String.isEmpty_iff.mp empty)

/-- A card name is read from each of its texts. -/
lemma WrittenAs.parse (written : name.WrittenAs text) : parse text = .ok name := by
  rw [parse_eq]
  cases written with
  | named full unstrict unhard =>
    rw [classify_named unstrict unhard, isEmpty, isEmpty_eq_false full]
    rfl
  | strict full =>
    rw [classify_strict, isEmpty, isEmpty_eq_false full]
    rfl
  | index indexes =>
    obtain ⟨inside, numeral, written, rfl⟩ := indexes
    rcases hardware_cases (String.ofList numeral) with ⟨m, other, read⟩ | ⟨none, -⟩
    · have same := indexes_append.mp ⟨inside, numeral, written, rfl⟩
      cases same.symm.trans (indexes_append.mp other)
      rw [classify_hardware, read]
      rfl
    · exact absurd ⟨inside, numeral, written, rfl⟩ (none _)
  | @identifier id full none =>
    rcases hardware_cases id with ⟨m, indexes, -⟩ | ⟨-, read⟩
    · exact absurd indexes (none m)
    · rw [classify_hardware, read, isEmpty, isEmpty_eq_false full]
      rfl

/-- Every text is one for the card name that is read from it, or it names nothing. -/
lemma written_or_empty (text : String) :
    (∃ name : CardName, name.WrittenAs text) ∨ text = "" ∨ text = "strict:" ∨ text = "hw:" := by
  rcases classify_cases text with ⟨name, rfl⟩ | ⟨id, rfl⟩ | ⟨unstrict, unhard⟩
  · by_cases full : name = ""
    · subst full
      exact .inr (.inr (.inl rfl))
    · exact .inl ⟨_, .strict full⟩
  · rcases hardware_cases id with ⟨n, indexes, -⟩ | ⟨none, -⟩
    · exact .inl ⟨_, .index indexes⟩
    · by_cases full : id = ""
      · subst full
        exact .inr (.inr (.inr rfl))
      · exact .inl ⟨_, .identifier full none⟩
  · by_cases full : text = ""
    · exact .inr (.inl full)
    · exact .inl ⟨_, .named full unstrict unhard⟩

/-- The empty text names no card, and neither does a mark alone. -/
lemma parse_nameless (nameless : text = "" ∨ text = "strict:" ∨ text = "hw:") :
    parse text = .error (.invalid (.emptyCard text)) := by
  rcases nameless with rfl | rfl | rfl <;> rfl

/-- Exactly the texts for a card name are read as it. -/
lemma parse_eq_ok : parse text = .ok name ↔ name.WrittenAs text := by
  refine ⟨fun read => ?_, WrittenAs.parse⟩
  rcases written_or_empty text with ⟨other, written⟩ | nameless
  · cases read.symm.trans written.parse
    exact written
  · cases read.symm.trans (parse_nameless nameless)

/-! ## Writing -/

/-- An index below the bound is written so that it is one again. -/
lemma indexes_text (inside : n < indexBound) : Indexes n (index n).text :=
  ⟨inside, _, .unsigned 0, rfl⟩

/-- The text of a card name is one for it. -/
lemma WrittenAs.canonical (written : name.WrittenAs text) : name.WrittenAs name.text := by
  cases written with
  | named full unstrict unhard => exact .named full unstrict unhard
  | strict full => exact .strict full
  | index indexes => exact .index (indexes_text indexes.1)
  | identifier full none => exact .identifier full none

/-- The text of a card name that was read is read as the same card name. It is the original text,
unless that is `hw:` with an index, of which only a plus sign and zeros in front are left out. And
no other texts are refused than the three that name nothing. -/
theorem parse_text :
    (∀ text, ∀ name : CardName, parse text = .ok name →
      parse name.text = .ok name ∧
      ((∀ n, ¬ Indexes n text) → name.text = text) ∧
      ∀ n, Indexes n text → name = .index n ∧ name.text = "hw:" ++ toString n) ∧
    ∀ text f, parse text = .error f ↔
      (text = "" ∨ text = "strict:" ∨ text = "hw:") ∧ f = .invalid (.emptyCard text) := by
  refine ⟨fun text name read => ?_, fun text f => ⟨fun refused => ?_, ?_⟩⟩
  · have written := parse_eq_ok.mp read
    refine ⟨written.canonical.parse, fun none => ?_, fun n indexes => ?_⟩
    · cases written with
      | named | strict | identifier => rfl
      | index indexes => exact absurd indexes (none _)
    · cases read.symm.trans (WrittenAs.index indexes).parse
      exact ⟨rfl, rfl⟩
  · rcases written_or_empty text with ⟨name, written⟩ | nameless
    · cases refused.symm.trans written.parse
    · exact ⟨nameless, Except.error.inj (refused.symm.trans (parse_nameless nameless))⟩
  · rintro ⟨nameless, rfl⟩
    exact parse_nameless nameless

/-- A sign and zeros in front of an index are left out; a number out of range is an identifier and
keeps them. -/
theorem parse_text_of_numbers :
    parse "hw:+007" = .ok (.index 7) ∧ (CardName.index 7).text = "hw:7" ∧
      parse "hw:7" = .ok (.index 7) ∧
      parse "hw:+04294967296" = .ok (.identifier "+04294967296") ∧
      (CardName.identifier "+04294967296").text = "hw:+04294967296" := by
  have read : parse "hw:+007" = .ok (.index 7) := by rfl
  have indexes : Indexes 7 "hw:+007" := ⟨by decide, _, .signed 2, rfl⟩
  have outside : parse "hw:+04294967296" = .ok (.identifier "+04294967296") := by rfl
  obtain ⟨again, -, short⟩ := parse_text.1 _ _ read
  obtain ⟨-, written⟩ := short 7 indexes
  refine ⟨read, written, again, outside, ?_⟩
  refine (parse_text.1 _ _ outside).2.1 fun n indexes => ?_
  cases outside.symm.trans (WrittenAs.index indexes).parse

end UseCase.CardName
