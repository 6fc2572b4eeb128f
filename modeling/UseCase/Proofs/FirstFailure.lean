import Mathlib.Data.List.Forall2
import UseCase.Proofs.Batch
import UseCase.Proofs.Numeral
import UseCase.Proofs.Outcome
import UseCase.Proofs.Session

/-!
# The first line that fails

The command lines of a batch are those that are not passed over, each with its number (`commands`).
A batch carries them out one after another up to the first one that fails (`Ends`), and its report
is what that line says of itself together with the number (`Failure.report`).

The main statement `run_one_by_one` is that every batch ends so. Hence a batch in two parts is the
second part after the first one, unless that fails; and batches with the same command lines end in
the same way but for the numbers, wherever lines are passed over between them.
-/

namespace UseCase.CommandLine.Batch

variable {l : Loader Desk} {asJson : Bool} {first : Nat} {s t : Desktop}

/-! ## Command lines -/

/-- The command lines among some lines, trimmed and with their numbers. -/
def commands (first : Nat) (lines : List (List Char)) : List (List Char × Nat) :=
  ((lines.map Text.trim).zipIdx first).filter fun (line, _) => !isIdle line

/-- How a command line fails, whatever its number is. -/
inductive Failure where
  /-- A quotation is not closed. -/
  | unclosed
  /-- What the words of the line ask for was not done. -/
  | refused (line : String) (cause : Report)

/-- The report of a failure, with the number of the line. -/
def Failure.report (number : Nat) : Failure → Report
  | unclosed => (Report.plain "unterminated quote").during s!"line {number}"
  | refused line cause => cause.during s!"line {number}: {line}"

/-- What stands in front of the first colon of a report. -/
def heading (number : Nat) : List Char :=
  s!"line {number}".toList

/-- The heading of a report is the word and the number of the line. -/
lemma heading_eq (number : Nat) : heading number = "line ".toList ++ Nat.toDigits 10 number := by
  simp [heading, toString, Nat.repr]

/-- There is no colon in the heading of a report. -/
lemma colon_not_mem_heading (number : Nat) : ':' ∉ heading number := by
  rw [heading_eq]
  intro member
  rcases List.mem_append.mp member with member | member
  · revert member
    decide
  · have digit := Nat.isDigit_of_mem_toDigits (by decide) (by decide) member
    revert digit
    decide

/-- Reports of different lines have different headings. -/
lemma heading_inj {m n : Nat} (same : heading m = heading n) : m = n := by
  rw [heading_eq, heading_eq] at same
  have digits := congrArg (Text.digitsFrom? 0) (List.append_cancel_left same)
  rw [Text.digitsFrom?_toDigits, Text.digitsFrom?_toDigits] at digits
  exact Option.some.inj digits

/-- The report of a quotation that is not closed has the heading alone. -/
lemma message_unclosed (number : Nat) :
    (Failure.unclosed.report number).message.toList = heading number :=
  rfl

/-- The report of a command line that was refused has the line behind the heading. -/
lemma message_refused (number : Nat) (line : String) (cause : Report) :
    ((Failure.refused line cause).report number).message.toList =
      heading number ++ ':' :: ' ' :: line.toList := by
  simp [Failure.report, Report.during, heading, toString]

/-- A report tells which line has failed and how. -/
lemma Failure.report_inj {failure failure' : Failure} {m n : Nat} :
    failure.report m = failure'.report n ↔ m = n ∧ failure = failure' := by
  constructor
  · intro same
    have messages := congrArg (fun r => r.message.toList) same
    have causes := congrArg Report.causes same
    cases failure with
    | unclosed =>
      cases failure' with
      | unclosed =>
        simp only [message_unclosed] at messages
        exact ⟨heading_inj messages, rfl⟩
      | refused line cause =>
        -- Only the report of a refused line has a colon.
        simp only [message_unclosed, message_refused] at messages
        have whole := colon_not_mem_heading m
        rw [messages] at whole
        exact absurd (List.mem_append_right _ List.mem_cons_self) whole
    | refused line cause =>
      cases failure' with
      | unclosed =>
        simp only [message_unclosed, message_refused] at messages
        have whole := colon_not_mem_heading n
        rw [← messages] at whole
        exact absurd (List.mem_append_right _ List.mem_cons_self) whole
      | refused line' cause' =>
        simp only [message_refused] at messages
        -- The line may have colons itself, but the first one ends the heading.
        have ours := Text.cut_eq_some.mpr ⟨messages, colon_not_mem_heading n⟩
        rw [Text.cut_eq_some.mpr ⟨rfl, colon_not_mem_heading m⟩, Option.some_inj,
          Prod.mk.injEq] at ours
        obtain ⟨headings, lines⟩ := ours
        rw [String.toList_inj.mp (List.cons_eq_cons.mp lines).2]
        cases cause
        cases cause'
        cases causes
        exact ⟨heading_inj headings, rfl⟩
  · rintro ⟨rfl, rfl⟩
    rfl

/-- Carries out a command line by itself. -/
def carry (l : Loader Desk) (asJson : Bool) (line : List Char) : EStateM Failure Desktop Unit :=
  match words? (String.ofList line) with
  | none => throw .unclosed
  | some words => (runWords l asJson words).adaptExcept (.refused (String.ofList line))

/-- A command line in a batch does what it does by itself; the number is only told. -/
lemma runLine_eq (number : Nat) (line : List Char) :
    runLine l asJson number (String.ofList line) =
      (carry l asJson line).adaptExcept (Failure.report number) := by
  unfold runLine carry
  cases words? (String.ofList line) with
  | none => rfl
  | some words =>
    funext s
    simp only [Outcome.adaptExcept_apply]
    cases runWords l asJson words s <;> rfl

/-! ## One line after another -/

/-- Command lines that are carried out one after another, each of them from where the one before it
has led. -/
inductive Carried (l : Loader Desk) (asJson : Bool) :
    List (List Char × Nat) → Desktop → Desktop → Prop
  | nil (s : Desktop) : Carried l asJson [] s s
  | cons {line : List Char} {rest : List (List Char × Nat)} {s t u : Desktop} (number : Nat) :
    carry l asJson line s = .ok () t → Carried l asJson rest t u →
    Carried l asJson ((line, number) :: rest) s u

/-- How command lines end: all of them are carried out, or those before one that fails, which leaves
what it has done so far and is the last one. -/
inductive Ends (l : Loader Desk) (asJson : Bool) (s : Desktop) :
    List (List Char × Nat) → EStateM.Result Report Desktop Unit → Prop
  | done {commands : List (List Char × Nat)} {t : Desktop} : Carried l asJson commands s t →
    Ends l asJson s commands (.ok () t)
  | stopped (before : List (List Char × Nat)) (number : Nat) (behind : List (List Char × Nat))
    {line : List Char} {failure : Failure} {t u : Desktop} :
    Carried l asJson before s t → carry l asJson line t = .error failure u →
    Ends l asJson s (before ++ (line, number) :: behind) (.error (failure.report number) u)

variable {line : List Char} {number : Nat} {rest : List (List Char × Nat)}
  {result : EStateM.Result Report Desktop Unit}

/-- Without command lines nothing is done. -/
lemma ends_nil : Ends l asJson s [] result ↔ result = .ok () s := by
  constructor
  · generalize none : [] = commands
    rintro (⟨carried⟩ | ⟨before, number, behind, carried, failed⟩)
    · cases none
      cases carried
      rfl
    · exact absurd none.symm (List.append_ne_nil_of_right_ne_nil _ (List.cons_ne_nil _ _))
  · rintro rfl
    exact .done (.nil s)

/-- After a command line that is carried out the others go on from there; one that fails is the last
one. -/
lemma ends_cons : Ends l asJson s ((line, number) :: rest) result ↔
    (∃ t, carry l asJson line s = .ok () t ∧ Ends l asJson t rest result) ∨
      ∃ failure t, carry l asJson line s = .error failure t ∧
        result = .error (failure.report number) t := by
  constructor
  · generalize whole : (line, number) :: rest = commands
    rintro (⟨carried⟩ | ⟨before, n, behind, carried, failed⟩)
    · cases whole
      cases carried with
      | cons _ here further => exact .inl ⟨_, here, .done further⟩
    · cases before with
      | nil =>
        cases whole
        cases carried
        exact .inr ⟨_, _, failed, rfl⟩
      | cons command before =>
        cases whole
        cases carried with
        | cons _ here further =>
          exact .inl ⟨_, here, .stopped before n behind further failed⟩
  · rintro (⟨t, here, ends⟩ | ⟨failure, t, failed, rfl⟩)
    · rcases ends with ⟨carried⟩ | ⟨before, n, behind, carried, failed⟩
      · exact .done (.cons number here carried)
      · exact .stopped ((line, number) :: before) n behind (.cons number here carried) failed
    · exact .stopped [] number rest (.nil s) failed

/-- A line that is passed over counts for the numbers only. -/
lemma commands_idle {line : List Char} (idle : isIdle (Text.trim line) = true)
    (lines : List (List Char)) : commands first (line :: lines) = commands (first + 1) lines := by
  simp [commands, List.zipIdx_cons, idle]

/-- A line that is not passed over is a command line with its number. -/
lemma commands_busy {line : List Char} (busy : isIdle (Text.trim line) = false)
    (lines : List (List Char)) :
    commands first (line :: lines) = (Text.trim line, first) :: commands (first + 1) lines := by
  simp [commands, List.zipIdx_cons, busy]

/-- Lines end as their command lines do. -/
lemma runLines_eq_iff {lines : List (List Char)} :
    runLines l asJson first lines s = result ↔ Ends l asJson s (commands first lines) result := by
  induction lines generalizing first s with
  | nil =>
    change (.ok () s = result) ↔ Ends l asJson s [] result
    rw [ends_nil, eq_comm]
  | cons line lines ih =>
    cases idle : isIdle (Text.trim line) with
    | true => rw [runLines_idle idle, commands_idle idle, ih]
    | false =>
      rw [runLines_busy idle, commands_busy idle, runLine_eq, Outcome.bind_apply,
        Outcome.adaptExcept_apply]
      rw [ends_cons]
      cases carry l asJson (Text.trim line) s with
      | ok _ t => simp [ih]
      | error failure t => simp [eq_comm]

/-! ## The same command lines -/

/-- Command lines that are the same but for their numbers, which are related. -/
def SameCommands (R : Nat → Nat → Prop) (ours theirs : List (List Char × Nat)) : Prop :=
  List.Forall₂ (fun c d => c.1 = d.1 ∧ R c.2 d.2) ours theirs

/-- Results that are the same but for the numbers in their reports, which are related. -/
inductive SameResult (R : Nat → Nat → Prop) :
    EStateM.Result Report Desktop Unit → EStateM.Result Report Desktop Unit → Prop
  | ok (t : Desktop) : SameResult R (.ok () t) (.ok () t)
  | error {m n : Nat} (failure : Failure) (t : Desktop) : R m n →
    SameResult R (.error (failure.report m) t) (.error (failure.report n) t)

variable {R : Nat → Nat → Prop} {ours theirs : List (List Char × Nat)}

/-- The same command lines end in the same way. -/
lemma SameCommands.ends (same : SameCommands R ours theirs) (ends : Ends l asJson s ours result) :
    ∃ result', Ends l asJson s theirs result' ∧ SameResult R result result' := by
  induction same generalizing s with
  | nil =>
    rw [ends_nil] at ends
    subst ends
    exact ⟨_, .done (.nil s), .ok s⟩
  | @cons command command' ours theirs here _ ih =>
    obtain ⟨line, m⟩ := command
    obtain ⟨line', n⟩ := command'
    obtain ⟨rfl, related⟩ := here
    rcases ends_cons.mp ends with ⟨t, carried, ends⟩ | ⟨failure, t, failed, rfl⟩
    · obtain ⟨result', ends', same⟩ := ih ends
      exact ⟨result', ends_cons.mpr (.inl ⟨t, carried, ends'⟩), same⟩
    · exact ⟨_, ends_cons.mpr (.inr ⟨failure, t, failed, rfl⟩), .error failure t related⟩

/-- Lines with the same command lines have the same results. -/
lemma SameCommands.results {lines others : List (List Char)} {m n : Nat}
    (same : SameCommands R (commands m lines) (commands n others)) (s : Desktop) :
    SameResult R (runLines l asJson m lines s) (runLines l asJson n others s) := by
  have ends := runLines_eq_iff.mp (Eq.refl (runLines l asJson m lines s))
  obtain ⟨result, ends', same⟩ := same.ends ends
  rw [← runLines_eq_iff] at ends'
  rwa [ends']

/-- The same lines further down have the same commands. -/
lemma sameCommands_shift {k : Nat} (lines : List (List Char))
    (related : ∀ number, first ≤ number → R number (number + k)) :
    SameCommands R (commands first lines) (commands (first + k) lines) := by
  induction lines generalizing first with
  | nil => exact .nil
  | cons line lines ih =>
    have further := @ih (first + 1) fun number behind => related number (Nat.le_of_succ_le behind)
    rw [Nat.add_right_comm] at further
    cases idle : isIdle (Text.trim line) with
    | true =>
      rw [commands_idle idle, commands_idle idle]
      exact further
    | false =>
      rw [commands_busy idle, commands_busy idle]
      exact .cons ⟨rfl, related first (Nat.le_refl first)⟩ further

/-- A line that is passed over moves those behind it by one. -/
lemma sameCommands_insert {front : List (List Char)} {line : List Char}
    (idle : isIdle (Text.trim line) = true) (back : List (List Char))
    (before : ∀ number, number < first + front.length → R number number)
    (behind : ∀ number, first + front.length ≤ number → R number (number + 1)) :
    SameCommands R (commands first (front ++ back)) (commands first (front ++ line :: back)) := by
  induction front generalizing first with
  | nil =>
    rw [List.nil_append, List.nil_append, commands_idle idle]
    exact sameCommands_shift back behind
  | cons piece front ih =>
    rw [List.length_cons, Nat.add_comm front.length, ← Nat.add_assoc] at before behind
    have further := ih before behind
    rw [List.cons_append, List.cons_append]
    cases passed : isIdle (Text.trim piece) with
    | true =>
      rw [commands_idle passed, commands_idle passed]
      exact further
    | false =>
      rw [commands_busy passed, commands_busy passed]
      refine .cons ⟨rfl, before first ?_⟩ further
      exact Nat.lt_of_lt_of_le (Nat.lt_succ_self first) (Nat.le_add_right _ _)

/-! ## Texts -/

/-- A blank at the end of a line is trimmed away. -/
lemma trim_concat {c : Char} (blank : Text.isBlank c = true) (text : List Char) :
    Text.trim (text ++ [c]) = Text.trim text := by
  have short (text : List Char) : Text.trimEnd (text ++ [c]) = Text.trimEnd text := by
    unfold Text.trimEnd Text.dropEnd
    rw [List.reverse_concat, List.dropWhile_cons_of_pos blank]
  unfold Text.trim Text.trimStart
  rw [List.dropWhile_append]
  split
  · rename_i none
    rw [List.isEmpty_iff.mp none, List.dropWhile_cons_of_pos blank]
    rfl
  · exact short _

/-- Without the return at its end a line has the same text between the blanks. -/
lemma trim_withoutReturn (line : List Char) :
    Text.trim (Text.withoutReturn line) = Text.trim line := by
  unfold Text.withoutReturn
  split
  · rename_i last
    obtain ⟨begun, rfl⟩ := List.getLast?_eq_some_iff.mp last
    rw [List.dropLast_concat, trim_concat rfl]
  · rfl

/-- An empty line at the end adds no command line. -/
lemma commands_concat_nil (lines : List (List Char)) :
    commands first (lines ++ [[]]) = commands first lines := by
  induction lines generalizing first with
  | nil => rfl
  | cons line lines ih =>
    rw [List.cons_append]
    cases idle : isIdle (Text.trim line) with
    | true => rw [commands_idle idle, commands_idle idle, ih]
    | false => rw [commands_busy idle, commands_busy idle, ih]

/-- The command lines of a text are those among its pieces between line feeds. -/
lemma commands_lines (text : List Char) :
    commands first (Text.lines text) = commands first (Text.segments '\n' text) := by
  obtain ⟨pieces, last, cut⟩ :=
    (List.eq_nil_or_concat' (Text.segments '\n' text)).resolve_left (Text.segments_ne_nil '\n' text)
  have trimmed (rest : List (List Char)) :
      commands first (pieces.map Text.withoutReturn ++ rest) = commands first (pieces ++ rest) := by
    unfold commands
    rw [List.map_append, List.map_map, List.map_append]
    congr 3
    exact List.map_congr_left fun line _ => trim_withoutReturn line
  rw [Text.lines_of_segments cut, cut, trimmed]
  split
  · rename_i empty
    rw [empty, List.append_nil, commands_concat_nil]
  · rfl

/-- Lines that are joined by line breaks have the command lines that they had apart. -/
lemma commands_intercalate {pieces : List (List Char)} (whole : ∀ piece ∈ pieces, '\n' ∉ piece) :
    commands first (Text.lines (['\n'].intercalate pieces)) = commands first pieces := by
  cases pieces with
  | nil => rfl
  | cons piece pieces =>
    rw [commands_lines, Text.segments_intercalate whole (List.cons_ne_nil _ _)]

/-- A text that is made of pieces between line feeds. -/
def joined (pieces : List (List Char)) : String :=
  String.ofList (['\n'].intercalate pieces)

/-- Every batch ends as its command lines do that are carried out one by one, and a report tells
which of them has failed and how. So a batch that goes on behind the end of a line is what is in
front, and then, unless that fails, what is behind, with numbers that are higher by the lines in
front. A line that is passed over only moves the numbers of those behind it, wherever it stands; and
nothing but the numbers depends on what is passed over. -/
theorem run_one_by_one (l : Loader Desk) (asJson : Bool) :
    (∀ text s result, run l asJson text s = result ↔
      Ends l asJson s (commands 1 (Text.lines text.toList)) result) ∧
    (∀ (failure failure' : Failure) m n,
      failure.report m = failure'.report n ↔ m = n ∧ failure = failure') ∧
    (∀ front back, Text.EndsLine front.toList → ∀ s,
      (∀ report t, run l asJson front s = .error report t →
        run l asJson (front ++ back) s = .error report t) ∧
      ∀ t, run l asJson front s = .ok () t →
        SameResult (fun m n => n = m + (Text.lines front.toList).length) (run l asJson back t)
          (run l asJson (front ++ back) s)) ∧
    (∀ front line back, (∀ piece ∈ front ++ line :: back, '\n' ∉ piece) →
      isIdle (Text.trim line) = true → ∀ s,
      SameResult (fun m n => n = if m ≤ front.length then m else m + 1)
        (run l asJson (joined (front ++ back)) s)
        (run l asJson (joined (front ++ line :: back)) s)) ∧
    ∀ R text other, SameCommands R (commands 1 (Text.lines text.toList))
      (commands 1 (Text.lines other.toList)) → ∀ s,
      SameResult R (run l asJson text s) (run l asJson other s) := by
  refine ⟨fun text s result => runLines_eq_iff, fun failure failure' m n => Failure.report_inj,
    fun front back ends s => ?_, fun front line back whole idle s => ?_,
    fun R text other same => same.results⟩
  · have further : run l asJson (front ++ back) s = (do
        run l asJson front
        runLines l asJson (1 + (Text.lines front.toList).length) (Text.lines back.toList)) s := by
      rw [run, String.toList_append, ends.lines_append, runLines_append]
      rfl
    rw [further]
    constructor
    · intro report t failed
      exact Outcome.bind_error failed
    · intro t ok
      rw [Outcome.bind_ok ok]
      -- What is behind runs as it does alone, but is numbered from the lines in front on.
      refine SameCommands.results ?_ t
      exact sameCommands_shift (Text.lines back.toList) fun number _ => rfl
  · have whole' : ∀ piece ∈ front ++ back, '\n' ∉ piece := by
      intro piece member
      apply whole
      rcases List.mem_append.mp member with member | member
      · exact List.mem_append_left _ member
      · exact List.mem_append_right _ (List.mem_cons_of_mem _ member)
    refine SameCommands.results ?_ s
    rw [joined, joined, String.toList_ofList, String.toList_ofList, commands_intercalate whole,
      commands_intercalate whole']
    refine sameCommands_insert idle back (fun number before => ?_) fun number behind => ?_
    · rw [if_pos (by omega)]
    · rw [if_neg (by omega)]

/-- A desktop with the sample card on which nothing has happened. -/
def freshDesktop : Desktop :=
  ⟨0, .named Sample.cardName, Sample.card,
    ⟨.fresh, ⟨.create [] false false none, .ofFiles (.empty [])⟩⟩⟩

/-- Runs a batch with the sample card. -/
def runSample (text : String) (s : Desktop) : EStateM.Result Report Desktop Unit :=
  run (Session.serving Sample.card) false text s

/-- The desktop after a verb was entered. -/
def enteredDesktop : Desktop :=
  after (runSample "set _verb HiFi\n" freshDesktop)

/-- The failure of the line that asks for a device that is not there. -/
def nowhere : Failure :=
  .refused "set _enadev Nowhere" ⟨"Not found: device 'Nowhere' in verb 'HiFi'", []⟩

/-- A device that is not there stops a batch after its verb was entered. -/
theorem stopped_at_nowhere :
    enteredDesktop.status = ⟨some "HiFi", [], []⟩ ∧
      runSample "set _verb HiFi\n" freshDesktop = .ok () enteredDesktop ∧
      runSample "# devices\nset _enadev Nowhere\n" enteredDesktop =
        .error (nowhere.report 2) enteredDesktop ∧
      SameResult (fun m n => n = m + 1)
        (runSample "# devices\nset _enadev Nowhere\n" enteredDesktop)
        (runSample "set _verb HiFi\n# devices\nset _enadev Nowhere\n" freshDesktop) ∧
      runSample "set _verb HiFi\n# devices\nset _enadev Nowhere\n" freshDesktop =
        .error (nowhere.report 3) enteredDesktop ∧
      runSample "set _verb HiFi\n# devices\nset _enadev Nowhere\nreset" freshDesktop =
        .error (nowhere.report 3) enteredDesktop ∧
      SameResult (fun m n => n = if m ≤ 1 then m else m + 1)
        (runSample "set _verb HiFi\nset _enadev Nowhere" freshDesktop)
        (runSample "set _verb HiFi\n  # devices\nset _enadev Nowhere" freshDesktop) ∧
      SameResult (fun m n => n = m + 2) (runSample "set _enadev Nowhere" enteredDesktop)
        (runSample "\n#\r\n set _enadev Nowhere " enteredDesktop) := by
  obtain ⟨-, -, parts, moved, alike⟩ := run_one_by_one (Session.serving Sample.card) false
  have entered : runSample "set _verb HiFi\n" freshDesktop = .ok () enteredDesktop := by rfl
  have stopped : runSample "set _verb HiFi\n# devices\nset _enadev Nowhere\n" freshDesktop =
      .error (nowhere.report 3) enteredDesktop := by rfl
  have behind := (parts "set _verb HiFi\n" "# devices\nset _enadev Nowhere\n" (.inr (by decide))
    freshDesktop).2 _ entered
  have last := (parts "set _verb HiFi\n# devices\nset _enadev Nowhere\n" "reset"
    (.inr (by decide)) freshDesktop).1 _ _ stopped
  have inserted := moved ["set _verb HiFi".toList] "  # devices".toList
    ["set _enadev Nowhere".toList] (by decide) (by decide) freshDesktop
  have padded := alike (fun m n => n = m + 2) "set _enadev Nowhere"
    "\n#\r\n set _enadev Nowhere " (.cons (by decide) .nil) enteredDesktop
  exact ⟨by rfl, entered, by rfl, behind, stopped, last, inserted, padded⟩

end UseCase.CommandLine.Batch
