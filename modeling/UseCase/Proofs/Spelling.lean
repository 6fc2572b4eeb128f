import UseCase.Proofs.Quotation
import UseCase.Toml.Document

/-!
# Spelled documents

A text of lines on which one statement each is spelled. The reader of documents takes such a text
apart line by line, whatever follows a line, so it finds the statements that were spelled.
-/

namespace UseCase.Toml

/-! ## Keys -/

/-- A character that begins something: no blank, no part of a line break, no mark of a comment. -/
def isVisible (c : Char) : Bool :=
  !isGap c && c != '#'

/-- A visible character is no blank. -/
lemma not_isSpace_of_isVisible {c : Char} (visible : isVisible c) : isSpace c = false := by
  simp only [isVisible, isGap, Bool.and_eq_true, Bool.not_eq_true', Bool.or_eq_false_iff]
    at visible
  exact visible.1.1.1

/-- There are no blanks to skip before a visible character. -/
lemma skipSpace_visible {c : Char} (visible : isVisible c) (rest : List Char) :
    skipSpace (c :: rest) = c :: rest := by
  rw [skipSpace, List.dropWhile_cons, not_isSpace_of_isVisible visible]
  rfl

/-- There is no gap to skip before a visible character. -/
lemma skipGap_visible {c : Char} (visible : isVisible c) (rest : List Char) :
    skipGap false (c :: rest) = some (c :: rest) := by
  simp only [isVisible, isGap, Bool.and_eq_true, Bool.not_eq_true', Bool.or_eq_false_iff,
    beq_eq_false_iff_ne, bne_iff_ne] at visible
  obtain ⟨⟨⟨space, feed⟩, back⟩, comment⟩ := visible
  rw [skipGap]
  simp [isBreak, space, feed, back, comment]

/-- A line break belongs to a gap. -/
lemma skipGap_feed (rest : List Char) : skipGap false ('\n' :: rest) = skipGap false rest := by
  rw [skipGap, if_pos rfl]

/-- A blank belongs to a gap. -/
lemma skipGap_space (rest : List Char) : skipGap false (' ' :: rest) = skipGap false rest := by
  rw [skipGap]
  simp [isBreak, isSpace]

/-- A key that stands without quotation marks. -/
def isBare (name : String) : Bool :=
  !name.toList.isEmpty && name.toList.all isKeyChar

/-- The characters of a bare key are those that keys may have. -/
lemma isKeyChar_of_isBare {name : String} (bare : isBare name) :
    ∀ c ∈ name.toList, isKeyChar c := by
  rw [isBare, Bool.and_eq_true, List.all_eq_true] at bare
  exact bare.2

/-- A bare key has a first character. -/
lemma cons_of_isBare {name : String} (bare : isBare name) :
    ∃ c cs, name.toList = c :: cs ∧ isKeyChar c := by
  have all := isKeyChar_of_isBare bare
  cases content : name.toList with
  | nil =>
    rw [isBare, content] at bare
    cases bare
  | cons c cs => exact ⟨c, cs, rfl, all c (content ▸ List.mem_cons_self)⟩

/-- A character that keys may have is none that they may not have. -/
lemma ne_of_isKeyChar {c d : Char} (key : isKeyChar c) (other : isKeyChar d = false) : c ≠ d := by
  rintro rfl
  rw [key] at other
  cases other

/-- A character that keys may have is visible. -/
lemma isVisible_of_isKeyChar {c : Char} (key : isKeyChar c) : isVisible c := by
  have ne {d : Char} (other : isKeyChar d = false) : c ≠ d := ne_of_isKeyChar key other
  simp [isVisible, isGap, isSpace, ne (d := ' ') rfl, ne (d := '\t') rfl, ne (d := '\n') rfl,
    ne (d := '\r') rfl, ne (d := '#') rfl]

/-- A bare key is read up to the first character that does not belong to it. -/
lemma keyPart?_bare {name : String} (bare : isBare name) {c : Char} (apart : isKeyChar c = false)
    (rest : List Char) :
    keyPart? (name.toList ++ c :: rest) = some (name, c :: rest) := by
  obtain ⟨first, others, content, key⟩ := cons_of_isBare bare
  have unquoted : quotedLine? (name.toList ++ c :: rest) = none := by
    rw [content, List.cons_append, quotedLine?]
    refine if_neg ?_
    rintro (same | same)
    · exact ne_of_isKeyChar key rfl same
    · exact ne_of_isKeyChar key rfl same
  have taken : (name.toList ++ c :: rest).takeWhile isKeyChar = name.toList := by
    rw [List.takeWhile_append_of_pos (isKeyChar_of_isBare bare), List.takeWhile_cons, apart]
    exact List.append_nil _
  have left : (name.toList ++ c :: rest).dropWhile isKeyChar = c :: rest := by
    rw [List.dropWhile_append_of_pos (isKeyChar_of_isBare bare), List.dropWhile_cons, apart]
    rfl
  have some : name.toList ≠ [] := by rw [content]; exact List.cons_ne_nil _ _
  rw [keyPart?, unquoted]
  simp only [taken, left, some, if_false, String.ofList_toList]

/-- A bare key is a key by itself unless a dot follows. -/
lemma key?_bare {name : String} (bare : isBare name) {c : Char} (apart : isKeyChar c = false)
    (rest : List Char) (single : (skipSpace (c :: rest)).head? ≠ some '.') :
    key? (name.toList ++ c :: rest) = some (⟨[], name⟩, skipSpace (c :: rest)) := by
  obtain ⟨first, others, content, key⟩ := cons_of_isBare bare
  have begun : skipSpace (name.toList ++ c :: rest) = name.toList ++ c :: rest := by
    rw [content, List.cons_append, skipSpace_visible (isVisible_of_isKeyChar key)]
  rw [key?, maxDepth, keyOf?, begun, keyPart?_bare bare apart]
  simp only [Option.bind_eq_bind, Option.bind_some]
  split
  · rename_i dotted
    exact absurd (by rw [dotted, List.head?_cons]) single
  · rfl

/-! ## Lines -/

/-- A text on a line of its own that reads as a statement. -/
structure IsLine (text : List Char) (s : Statement) : Prop where
  begun : ∃ c cs, text = c :: cs ∧ isVisible c
  read (rest : List Char) : Statement.read? (text ++ '\n' :: rest) = some (s, '\n' :: rest)

/-- A text of such lines, some of them blank. -/
inductive Spells : List Char → List Statement → Prop
  | done : Spells [] []
  | blank {cs : List Char} {statements : List Statement} : Spells cs statements →
    Spells ('\n' :: cs) statements
  | line {text cs : List Char} {s : Statement} {statements : List Statement} : IsLine text s →
    Spells cs statements → Spells (text ++ '\n' :: cs) (s :: statements)

/-- Texts in a row read as the statements of both. -/
lemma Spells.append {cs cs' : List Char} {first second : List Statement}
    (spells : Spells cs first) (next : Spells cs' second) :
    Spells (cs ++ cs') (first ++ second) := by
  induction spells with
  | done => exact next
  | blank _ ih => exact .blank ih
  | line line _ ih =>
    rw [List.append_assoc]
    exact .line line ih

/-- There are no more statements than characters. -/
lemma Spells.length_le {cs : List Char} {statements : List Statement}
    (spells : Spells cs statements) : statements.length ≤ cs.length := by
  induction spells with
  | done => exact Nat.le_refl 0
  | blank _ ih => exact Nat.le_succ_of_le ih
  | line line _ ih =>
    rw [List.length_cons, List.length_append, List.length_cons]
    omega

/-- A line break in front of statements is passed over. -/
lemma readAll?_feed (fuel : Nat) (cs : List Char) :
    Statement.readAll? fuel ('\n' :: cs) = Statement.readAll? fuel cs := by
  cases fuel with
  | zero => rfl
  | succ fuel => rw [Statement.readAll?, Statement.readAll?, skipGap_feed]

/-- A line is read as the first of the statements. -/
lemma IsLine.readAll? {text : List Char} {s : Statement} (line : IsLine text s) (fuel : Nat)
    (cs : List Char) :
    Statement.readAll? (fuel + 1) (text ++ '\n' :: cs) =
      (Statement.readAll? fuel cs).map (s :: ·) := by
  obtain ⟨c, others, rfl, visible⟩ := line.begun
  have first := line.read cs
  have ended : Statement.endLine? ('\n' :: cs) = some ('\n' :: cs) := rfl
  rw [List.cons_append] at first ⊢
  rw [Statement.readAll?, skipGap_visible visible]
  simp only [Option.bind_eq_bind, Option.bind_some, first, ended, readAll?_feed]
  cases Statement.readAll? fuel cs <;> rfl

/-- A text is read as the statements that it spells. -/
lemma Spells.readAll? {cs : List Char} {statements : List Statement} (spells : Spells cs statements)
    {fuel : Nat} (enough : statements.length < fuel) :
    Statement.readAll? fuel cs = some statements := by
  induction spells generalizing fuel with
  | done =>
    obtain ⟨fuel, rfl⟩ := Nat.exists_eq_succ_of_ne_zero (Nat.ne_of_gt enough)
    rfl
  | blank _ ih => rw [readAll?_feed, ih enough]
  | line line _ ih =>
    obtain ⟨fuel, rfl⟩ := Nat.exists_eq_succ_of_ne_zero (Nat.ne_of_gt (Nat.zero_lt_of_lt enough))
    rw [line.readAll?, ih (Nat.lt_of_succ_lt_succ enough)]
    rfl

/-- A document is built from the statements that its text spells. -/
theorem Spells.ofText? {cs : List Char} {statements : List Statement}
    (spells : Spells cs statements) (unmarked : cs.head? ≠ some '\ufeff') :
    Value.ofText? (String.ofList cs) = build? statements := by
  have plain : dropMark cs = cs := by
    cases cs with
    | nil => rfl
    | cons c cs =>
      rw [dropMark]
      intro rest begins
      exact unmarked (by rw [begins, List.head?_cons])
  rw [Value.ofText?, String.toList_ofList, plain]
  simp only [spells.readAll? (Nat.lt_succ_of_le spells.length_le), Option.bind_eq_bind,
    Option.bind_some]

/-! ## Values -/

/-- What is neither an array nor a table is read as a scalar. -/
lemma value?_scalar {c : Char} (noArray : c ≠ '[') (noTable : c ≠ '\x7b') (depth : Nat)
    (rest : List Char) :
    value? depth (c :: rest) = scalar? (c :: rest) := by
  cases depth with
  | zero => rfl
  | succ depth =>
    rw [value?]
    · intro rest' begins
      exact noArray (List.cons.inj begins).1
    · intro rest' begins
      exact noTable (List.cons.inj begins).1

/-- A quoted text is read as this text, unless one more mark follows. -/
lemma value?_quote (depth : Nat) (s : String) {rest : List Char}
    (apart : rest.head? ≠ some basicMark) :
    value? depth (quote s ++ rest) = some (.text s, rest) := by
  have text : scalar? (quote s ++ rest) = some (.text s, rest) := by
    rw [scalar?, quoted?_quote s apart]
  rw [← text, quote, List.cons_append]
  exact value?_scalar (by decide) (by decide) depth _

section

variable {α : Type} {close : Char} {item : List Char → Option (α × List Char)} {v : α}

/-- A bracket at once closes an empty list of items. -/
lemma itemsOf?_close (visible : isVisible close) (fuel : Nat) (rest : List Char) :
    itemsOf? close item (fuel + 1) (close :: rest) = some ([], rest) := by
  rw [itemsOf?, skipGap_visible visible]
  exact if_pos rfl

/-- A line break between items is passed over. -/
lemma itemsOf?_feed (fuel : Nat) (rest : List Char) :
    itemsOf? close item fuel ('\n' :: rest) = itemsOf? close item fuel rest := by
  cases fuel with
  | zero => rfl
  | succ fuel => rw [itemsOf?, itemsOf?, skipGap_feed]

/-- A blank between items is passed over. -/
lemma itemsOf?_space (fuel : Nat) (rest : List Char) :
    itemsOf? close item fuel (' ' :: rest) = itemsOf? close item fuel rest := by
  cases fuel with
  | zero => rfl
  | succ fuel => rw [itemsOf?, itemsOf?, skipGap_space]

/-- An item before the closing bracket is the last one. -/
lemma itemsOf?_last {c : Char} {cs rest : List Char} (visible : isVisible c)
    (visible' : isVisible close) (inside : c ≠ close)
    (first : item (c :: cs) = some (v, close :: rest)) (fuel : Nat) :
    itemsOf? close item (fuel + 1) (c :: cs) = some ([v], rest) := by
  rw [itemsOf?, skipGap_visible visible]
  simp only [Option.bind_eq_bind, Option.bind_some, if_neg inside, first, skipGap_visible visible',
    if_true]
  rfl

/-- An item before a comma is followed by the others. -/
lemma itemsOf?_comma {c : Char} {cs rest : List Char} (visible : isVisible c) (other : ',' ≠ close)
    (inside : c ≠ close) (first : item (c :: cs) = some (v, ',' :: rest)) (fuel : Nat) :
    itemsOf? close item (fuel + 1) (c :: cs) =
      (itemsOf? close item fuel rest).map fun (more, rest) => (v :: more, rest) := by
  have comma : skipGap false (',' :: rest) = some (',' :: rest) := skipGap_visible rfl rest
  rw [itemsOf?, skipGap_visible visible]
  simp only [Option.bind_eq_bind, Option.bind_some, if_neg inside, first, comma, if_neg other,
    if_true]
  cases itemsOf? close item fuel rest <;> rfl

end

/-! ## Statements -/

/-- A bare key, an equals sign and a value are a pair. -/
lemma pair?_bare {name : String} (bare : isBare name) {c : Char} {cs : List Char}
    (visible : isVisible c) {read : List Char → Option (Value × List Char)} {v : Value}
    {rest : List Char}
    (reads : read (c :: cs) = some (v, rest)) :
    pair? (some ∘ skipSpace) read (name.toList ++ ' ' :: '=' :: ' ' :: c :: cs) =
      some ((⟨[], name⟩, v), rest) := by
  have sign : skipSpace (' ' :: '=' :: ' ' :: c :: cs) = '=' :: ' ' :: c :: cs := rfl
  have gap : skipSpace (' ' :: c :: cs) = c :: cs := skipSpace_visible visible cs
  have key := key?_bare bare (c := ' ') rfl ('=' :: ' ' :: c :: cs) (by rw [sign]; simp)
  rw [pair?, key, sign]
  have after : skipSpace ('=' :: ' ' :: c :: cs) = '=' :: ' ' :: c :: cs := rfl
  simp only [Option.bind_eq_bind, Option.bind_some, Function.comp_apply, after, gap, reads]
  rfl

/-- A bare key with a value is one line. -/
lemma isLine_pair {name : String} (bare : isBare name) {c : Char} {cs : List Char} {v : Value}
    (visible : isVisible c)
    (reads : ∀ rest, value? maxDepth (c :: cs ++ '\n' :: rest) = some (v, '\n' :: rest)) :
    IsLine (name.toList ++ " = ".toList ++ c :: cs) (.pair ⟨[], name⟩ v) where
  begun := by
    obtain ⟨first, others, content, key⟩ := cons_of_isBare bare
    rw [content]
    exact ⟨first, _, rfl, isVisible_of_isKeyChar key⟩
  read rest := by
    have pair : pair? (some ∘ skipSpace) (value? maxDepth)
        (name.toList ++ ' ' :: '=' :: ' ' :: c :: (cs ++ '\n' :: rest)) =
          some ((⟨[], name⟩, v), '\n' :: rest) :=
      pair?_bare bare visible (reads rest)
    obtain ⟨first, others, content, key⟩ := cons_of_isBare bare
    have noHeader : first ≠ '[' := ne_of_isKeyChar key rfl
    have shape : name.toList ++ " = ".toList ++ c :: cs ++ '\n' :: rest =
        name.toList ++ ' ' :: '=' :: ' ' :: c :: (cs ++ '\n' :: rest) := by
      simp
    rw [shape]
    rw [content, List.cons_append] at pair ⊢
    rw [Statement.read?]
    · rw [pair]
      rfl
    · intro rest' begins
      exact noHeader (List.cons.inj begins).1
    · intro rest' begins
      exact noHeader (List.cons.inj begins).1

/-- A bare key in double brackets is one line. -/
lemma isLine_element {name : String} (bare : isBare name) :
    IsLine ("[[".toList ++ name.toList ++ "]]".toList) (.element ⟨[], name⟩) where
  begun := ⟨'[', _, rfl, rfl⟩
  read rest := by
    have key := key?_bare bare (c := ']') rfl (']' :: '\n' :: rest) (by simp [skipSpace, isSpace])
    have shape : "[[".toList ++ name.toList ++ "]]".toList ++ '\n' :: rest =
        '[' :: '[' :: (name.toList ++ ']' :: ']' :: '\n' :: rest) := by
      simp
    rw [shape, Statement.read?, key]
    rfl

end UseCase.Toml
