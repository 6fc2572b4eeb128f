import UseCase.Proofs.Spelling
import UseCase.Snapshot

/-!
# The text of a snapshot

The text of a snapshot spells the statements of its identifiers and of its values, the document that
these statements build has the fields of the snapshot, and the snapshot is read from these fields.
Neither the identifiers nor the parts of a value are restricted.
-/

namespace UseCase.Snapshot

open Toml

/-! ## Identifiers -/

/-- A quoted text before a comma is the first of the items. -/
lemma itemsOf?_text_comma (depth fuel : Nat) (s : String) (rest : List Char) :
    itemsOf? ']' (value? depth) (fuel + 1) (quote s ++ ',' :: rest) =
      (itemsOf? ']' (value? depth) fuel rest).map fun (more, rest) => (.text s :: more, rest) := by
  have first : value? depth (quote s ++ ',' :: rest) = some (.text s, ',' :: rest) :=
    value?_quote depth s nofun
  exact itemsOf?_comma (c := basicMark) rfl (by decide) (by decide) first fuel

/-- A quoted text before the bracket is the last of the items. -/
lemma itemsOf?_text_last (depth fuel : Nat) (s : String) (rest : List Char) :
    itemsOf? ']' (value? depth) (fuel + 1) (quote s ++ ']' :: rest) = some ([.text s], rest) := by
  have first : value? depth (quote s ++ ']' :: rest) = some (.text s, ']' :: rest) :=
    value?_quote depth s nofun
  exact itemsOf?_last (c := basicMark) rfl rfl (by decide) first fuel

/-- Identifiers on lines of their own. -/
def rows (identifiers : List String) : List Char :=
  identifiers.flatMap fun i => "    ".toList ++ quote i ++ ",\n".toList

/-- An identifier has four blanks in front and a comma and a line break behind. -/
lemma rows_cons (i : String) (identifiers : List String) (rest : List Char) :
    rows (i :: identifiers) ++ rest =
      ' ' :: ' ' :: ' ' :: ' ' :: (quote i ++ ',' :: '\n' :: (rows identifiers ++ rest)) := by
  simp [rows]

/-- There are no more identifiers than characters. -/
lemma length_le_rows (identifiers : List String) :
    identifiers.length ≤ (rows identifiers).length := by
  induction identifiers with
  | nil => exact Nat.le_refl 0
  | cons i identifiers ih =>
    have shape := congrArg List.length (rows_cons i identifiers [])
    simp only [List.append_nil, List.length_cons, List.length_append] at shape
    rw [List.length_cons]
    omega

/-- Identifiers on lines of their own are read as the items of an array. -/
lemma itemsOf?_rows (depth : Nat) (identifiers : List String) {fuel : Nat}
    (enough : identifiers.length < fuel) (rest : List Char) :
    itemsOf? ']' (value? depth) fuel (rows identifiers ++ ']' :: rest) =
      some (identifiers.map .text, rest) := by
  induction identifiers generalizing fuel with
  | nil =>
    obtain ⟨fuel, rfl⟩ := Nat.exists_eq_succ_of_ne_zero (Nat.ne_of_gt enough)
    exact itemsOf?_close rfl fuel rest
  | cons i identifiers ih =>
    obtain ⟨fuel, rfl⟩ := Nat.exists_eq_succ_of_ne_zero (Nat.ne_of_gt (Nat.zero_lt_of_lt enough))
    rw [rows_cons, itemsOf?_space, itemsOf?_space, itemsOf?_space, itemsOf?_space,
      itemsOf?_text_comma, itemsOf?_feed, ih (Nat.lt_of_succ_lt_succ enough)]
    rfl

/-- The identifiers as an array. -/
def listText : List String → List Char
  | [] => ['[', ']']
  | [identifier] => '[' :: (quote identifier ++ [']'])
  | identifiers => '[' :: '\n' :: (rows identifiers ++ [']'])

/-- The line of the identifiers is their key and their array. -/
lemma identifiersText_eq (identifiers : List String) :
    identifiersText identifiers =
      "identifiers".toList ++ " = ".toList ++ listText identifiers ++ ['\n'] := by
  -- Each form is compared as it stands: the equations of the definition are too costly to derive.
  rcases identifiers with _ | ⟨i, _ | ⟨second, others⟩⟩
  · have shape : identifiersText [] = "identifiers = []\n".toList := rfl
    simp [shape, listText]
  · have shape : identifiersText [i] = "identifiers = [".toList ++ quote i ++ "]\n".toList := rfl
    simp [shape, listText]
  · have shape : identifiersText (i :: second :: others) =
        "identifiers = [\n".toList ++ rows (i :: second :: others) ++ "]\n".toList := rfl
    simp [shape, listText]

/-- The array of the identifiers is read as it was written. -/
lemma value?_listText (identifiers : List String) (rest : List Char) :
    value? maxDepth (listText identifiers ++ rest) =
      some (.array (identifiers.map .text), rest) := by
  have read (cs : List Char) (items : List Value)
      (reads : itemsOf? ']' (value? 79) (cs.length + 1) cs = some (items, rest)) :
      value? maxDepth ('[' :: cs) = some (.array items, rest) := by
    rw [maxDepth, value?, items?, reads]
    rfl
  rcases identifiers with _ | ⟨i, _ | ⟨second, others⟩⟩
  · exact read _ _ (itemsOf?_close rfl _ _)
  · have shape : listText [i] ++ rest = '[' :: (quote i ++ ']' :: rest) := by
      simp [listText]
    rw [shape]
    exact read _ _ (itemsOf?_text_last _ _ _ _)
  · have shape : listText (i :: second :: others) ++ rest =
        '[' :: '\n' :: (rows (i :: second :: others) ++ ']' :: rest) := by
      simp [listText]
    rw [shape]
    refine read _ _ ?_
    rw [itemsOf?_feed]
    refine itemsOf?_rows _ _ ?_ _
    have length := length_le_rows (i :: second :: others)
    simp only [List.length_cons, List.length_append] at length ⊢
    omega

/-! ## Statements -/

/-- A key and a quoted text are one line. -/
lemma isLine_field {key : String} (bare : isBare key) (value : String) :
    IsLine (key.toList ++ " = ".toList ++ quote value) (.pair ⟨[], key⟩ (.text value)) :=
  isLine_pair bare (c := basicMark) rfl fun _ => value?_quote maxDepth value nofun

/-- The statements of a control value. -/
def valueStatements (v : ControlValue) : List Statement :=
  [.element ⟨[], "control"⟩, .pair ⟨[], "device"⟩ (.text v.device),
    .pair ⟨[], "control"⟩ (.text v.control), .pair ⟨[], "value"⟩ (.text v.value)]

/-- The statement of the identifiers. -/
def identifiersStatement (identifiers : List String) : Statement :=
  .pair ⟨[], "identifiers"⟩ (.array (identifiers.map .text))

/-- The statements of some control values. -/
def valuesStatements : List ControlValue → List Statement
  | [] => [.pair ⟨[], "control"⟩ (.array [])]
  | values => values.flatMap valueStatements

/-- The key and the array of the identifiers are one line. -/
lemma isLine_identifiers (identifiers : List String) :
    IsLine ("identifiers".toList ++ " = ".toList ++ listText identifiers)
      (identifiersStatement identifiers) := by
  obtain ⟨cs, shape⟩ : ∃ cs, listText identifiers = '[' :: cs := by
    rcases identifiers with _ | ⟨i, _ | ⟨second, others⟩⟩ <;> exact ⟨_, rfl⟩
  have read := value?_listText identifiers
  rw [shape] at read ⊢
  exact isLine_pair rfl rfl fun rest => read ('\n' :: rest)

/-- The text of a control value. -/
def valueText (v : ControlValue) : List Char :=
  '\n' :: ("[[".toList ++ "control".toList ++ "]]".toList ++ '\n' ::
    ("device".toList ++ " = ".toList ++ quote v.device ++ '\n' ::
      ("control".toList ++ " = ".toList ++ quote v.control ++ '\n' ::
        ("value".toList ++ " = ".toList ++ quote v.value ++ '\n' :: []))))

/-- Some control values have the text of each one after another. -/
lemma valuesText_cons (v : ControlValue) (values : List ControlValue) :
    valuesText (v :: values) = (v :: values).flatMap valueText := by
  have shape : valuesText (v :: values) = (v :: values).flatMap fun v =>
      "\n[[control]]\n".toList ++
        field "device" v.device ++ field "control" v.control ++ field "value" v.value := rfl
  rw [shape]
  refine congrArg (List.flatMap · (v :: values)) (funext fun v => ?_)
  simp [valueText, field]

/-- The text of a control value reads as its statements. -/
lemma spells_valueText (v : ControlValue) : Spells (valueText v) (valueStatements v) :=
  .blank (.line (isLine_element rfl) (.line (isLine_field rfl _)
    (.line (isLine_field rfl _) (.line (isLine_field rfl _) .done))))

/-- The text of some control values reads as their statements. -/
lemma spells_valuesText (values : List ControlValue) :
    Spells (valuesText values) (valuesStatements values) := by
  cases values with
  | nil =>
    have shape :
        valuesText [] = "control".toList ++ " = ".toList ++ '[' :: [']'] ++ '\n' :: [] := by
      have text : valuesText [] = "control = []\n".toList := rfl
      simp [text]
    rw [shape]
    exact .line (isLine_pair rfl rfl fun rest => value?_listText [] ('\n' :: rest)) .done
  | cons first others =>
    rw [valuesText_cons]
    change Spells _ ((first :: others).flatMap valueStatements)
    generalize first :: others = values
    induction values with
    | nil => exact .done
    | cons v values ih =>
      rw [List.flatMap_cons, List.flatMap_cons]
      exact (spells_valueText v).append ih

/-! ## The document -/

/-- The entries of a control value. -/
def valueEntries (v : ControlValue) : List (String × Value) :=
  [("device", .text v.device), ("control", .text v.control), ("value", .text v.value)]

/-- The document of a snapshot. -/
def document (s : Snapshot) : Value :=
  .table [("identifiers", .array (s.identifiers.map .text)),
    ("control", .array (s.values.map fun v => .table (valueEntries v)))]

/-- A table whose entries are finished. -/
def drafted (entries : List (String × Value)) : Draft.Entries :=
  entries.map fun (name, v) => (name, .value v)

/-- A table whose entries are finished has these entries. -/
lemma finishEntries_drafted (entries : List (String × Value)) :
    Draft.finishEntries (drafted entries) = entries := by
  induction entries with
  | nil => rfl
  | cons entry entries ih =>
    exact congrArg (entry :: ·) ih

/-- The tables of control values are finished to their tables. -/
lemma finishTables_values (values : List ControlValue) :
    Draft.finishTables (values.map fun v => drafted (valueEntries v)) =
      values.map fun v => .table (valueEntries v) := by
  induction values with
  | nil => rfl
  | cons v values ih =>
    rw [List.map_cons, Draft.finishTables, finishEntries_drafted, ih, List.map_cons]

/-- Where the statements of control values lead. -/
def progress (identifiers : Value) (front : List ControlValue) (last : ControlValue) :
    Progress where
  entries :=
    let draft (v : ControlValue) := drafted (valueEntries v)
    [("identifiers", .value identifiers), ("control", .tables (front.map draft) (draft last))]
  current := ["control"]

/-- The statements of the identifiers and of a first control value lead there. -/
lemma add_first (identifiers : List String) (v : ControlValue) :
    (identifiersStatement identifiers :: valueStatements v).foldlM Progress.add ⟨[], []⟩ =
      some (progress (.array (identifiers.map .text)) [] v) :=
  rfl

/-- The statements of one more control value lead one further. -/
lemma add_next (identifiers : Value) (front : List ControlValue) (last v : ControlValue) :
    (valueStatements v).foldlM Progress.add (progress identifiers front last) =
      some (progress identifiers (front ++ [last]) v) := by
  simp [valueStatements, progress, Progress.add, Draft.within, Draft.append, Draft.alter, Draft.put,
    Draft.give, drafted, valueEntries]

/-- The statements of all control values lead to all of them in order. -/
lemma add_all (identifiers : Value) (front : List ControlValue) (last : ControlValue)
    (values : List ControlValue) :
    ∃ front' last', (values.flatMap valueStatements).foldlM Progress.add
        (progress identifiers front last) = some (progress identifiers front' last') ∧
      front' ++ [last'] = front ++ last :: values := by
  induction values generalizing front last with
  | nil => exact ⟨front, last, rfl, rfl⟩
  | cons v values ih =>
    obtain ⟨front', last', added, all⟩ := ih (front ++ [last]) v
    refine ⟨front', last', ?_, ?_⟩
    · rw [List.flatMap_cons, List.foldlM_append, add_next]
      exact added
    · rw [all, List.append_assoc, List.singleton_append]

/-- The statements of a snapshot. -/
def statements (s : Snapshot) : List Statement :=
  identifiersStatement s.identifiers :: valuesStatements s.values

/-- The statements of a snapshot build its document. -/
lemma build?_statements (s : Snapshot) : build? s.statements = some s.document := by
  obtain ⟨identifiers, values⟩ := s
  cases values with
  | nil => rfl
  | cons first others =>
    obtain ⟨front, last, added, all⟩ :=
      add_all (.array (identifiers.map .text)) [] first others
    have split : statements ⟨identifiers, first :: others⟩ =
        (identifiersStatement identifiers :: valueStatements first) ++
          others.flatMap valueStatements := by
      rw [statements, valuesStatements, List.flatMap_cons, List.cons_append]
      nofun
    have reached : (statements ⟨identifiers, first :: others⟩).foldlM Progress.add ⟨[], []⟩ =
        some (progress (.array (identifiers.map .text)) front last) := by
      rw [split, List.foldlM_append, add_first]
      exact added
    rw [build?, reached]
    simp only [progress, document, Option.bind_eq_bind, Option.bind_some, Option.pure_def,
      Draft.finishEntries, Draft.finish, finishTables_values, finishEntries_drafted]
    rw [← List.nil_append (first :: others), ← all, List.map_append]
    rfl

/-- A control value is read from its table. -/
lemma controlValue?_table (v : ControlValue) :
    controlValue? (.table (valueEntries v)) = some v :=
  rfl

/-- What is read back item by item is read back as a list. -/
lemma mapM_eq_some {α β : Type} {read : β → Option α} {write : α → β}
    (back : ∀ a, read (write a) = some a) (items : List α) :
    (items.map write).mapM read = some items := by
  induction items with
  | nil => rfl
  | cons a items ih => simp [back, ih]

/-- A snapshot is read from its document. -/
lemma ofValue?_document (s : Snapshot) : ofValue? s.document = some s := by
  have fields : Record.ofValue? false ["identifiers", "control"] s.document =
      some ⟨false, [("identifiers", .array (s.identifiers.map .text)),
        ("control", .array (s.values.map fun v => .table (valueEntries v)))]⟩ :=
    rfl
  have text (i : String) : Value.text? (.text i) = some i := rfl
  have identifiers :
      Value.list? Value.text? (.array (s.identifiers.map .text)) = some s.identifiers :=
    mapM_eq_some text s.identifiers
  have values :
      Value.list? controlValue? (.array (s.values.map fun v => .table (valueEntries v))) =
        some s.values :=
    mapM_eq_some controlValue?_table s.values
  rw [ofValue?, fields]
  simp only [Option.bind_eq_bind, Option.bind_some, Record.withDefault, Record.get?]
  simp [identifiers, values]

/-- A snapshot is read back from its text, whatever its identifiers and its values are. -/
theorem ofText_text (s : Snapshot) : ofText s.text = .ok s := by
  have spells : Spells (identifiersText s.identifiers ++ valuesText s.values) s.statements := by
    rw [identifiersText_eq, List.append_assoc]
    exact .line (isLine_identifiers s.identifiers) (spells_valuesText s.values)
  have unmarked : (identifiersText s.identifiers ++ valuesText s.values).head? ≠ some '\ufeff' := by
    rw [identifiersText_eq]
    simp
  rw [ofText, text, spells.ofText? unmarked, build?_statements]
  simp only [ofValue?_document]

end UseCase.Snapshot
