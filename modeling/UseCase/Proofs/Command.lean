import Mathlib.Tactic.Common
import UseCase.Command
import UseCase.Proofs.Outcome
import UseCase.Proofs.Splitting

/-!
# Written commands

Every command is written as an identifier with a value, and in one way only. The commands that need
no value ignore one that is given. A switch has its old name in the identifier, and since only the
first slash parts it from the word in front, this name may hold anything.

The main statement `reads_as_written` is that exactly the commands whose names are not empty are
read, each from the way in which it is written, and that everything else is malformed.
-/

namespace UseCase.Command

/-- The word for switching entities of a kind. -/
def switchWord : Kind → String
  | .device => "_swdev"
  | .modifier => "_swmod"

/-- The identifier in which a command is written. -/
def identifier : Command → String
  | fixedBoot => "_fboot"
  | boot => "_boot"
  | defaults => "_defaults"
  | setVerb _ => "_verb"
  | enable .device _ => "_enadev"
  | enable .modifier _ => "_enamod"
  | disable .device _ => "_disdev"
  | disable .modifier _ => "_dismod"
  | switch kind old _ => switchWord kind ++ "/" ++ old

/-- The value with which a command is written, if it needs one. -/
def value? : Command → Option String
  | fixedBoot | boot | defaults => none
  | setVerb name | enable _ name | disable _ name => some name
  | switch _ _ new => some new

/-- The names in a command. -/
def names : Command → List String
  | fixedBoot | boot | defaults => []
  | setVerb name | enable _ name | disable _ name => [name]
  | switch _ old new => [old, new]

/-- No name in a command is empty. -/
def Named (c : Command) : Prop :=
  ∀ name ∈ c.names, name ≠ ""

/-- Whether a command names all that it is about can be decided. -/
instance (c : Command) : Decidable c.Named :=
  inferInstanceAs (Decidable (∀ name ∈ c.names, name ≠ ""))

/-- An identifier with a value writes a command; the value is free where none is needed. -/
structure WrittenAs (c : Command) (identifier : String) (value : Option String) : Prop where
  identifier : identifier = c.identifier
  value : c.value? = none ∨ value = c.value?

variable {identifier : String} {value : Option String} {word : List Char} {c : Command}

/-! ## Words and values -/

/-- A value that is needed is read if it is there and not empty. -/
lemma required_cases (identifier : String) (value : Option String) :
    (∃ name, value = some name ∧ name ≠ "" ∧ required identifier value = .ok name) ∨
      required identifier value = .error (.invalid (.valueNeeded identifier)) := by
  unfold required
  split
  · exact .inr rfl
  · exact .inr rfl
  · rename_i name full
    exact .inl ⟨name, rfl, full, rfl⟩

/-- A name that has characters is accepted where one is required. -/
lemma required_some {name : String} (full : name ≠ "") :
    required identifier (some name) = .ok name := by
  unfold required
  split
  · rename_i none
    cases none
  · rename_i empty
    exact absurd (Option.some.inj empty) full
  · rename_i value same
    rw [Option.some.inj same]

/-- The words that need no value. -/
lemma of_plain? (read : plain? word = some c) :
    c.names = [] ∧ c.value? = none ∧ word = c.identifier.toList := by
  unfold plain? at read
  split_ifs at read with fixed boots defaulted
  · cases read
    exact ⟨rfl, rfl, fixed⟩
  · cases read
    exact ⟨rfl, rfl, boots⟩
  · cases read
    exact ⟨rfl, rfl, defaulted⟩

/-- The words that need a value and nothing else. -/
lemma of_valued? {make : String → Command} (read : valued? word = some make) (name : String) :
    (make name).names = [name] ∧ (make name).value? = some name ∧
      word = (make name).identifier.toList := by
  unfold valued? at read
  split_ifs at read with verb device undevice modifier unmodifier
  · cases read
    exact ⟨rfl, rfl, verb⟩
  · cases read
    exact ⟨rfl, rfl, device⟩
  · cases read
    exact ⟨rfl, rfl, undevice⟩
  · cases read
    exact ⟨rfl, rfl, modifier⟩
  · cases read
    exact ⟨rfl, rfl, unmodifier⟩

/-- The word from which a kind is read is the word of that kind. -/
lemma of_switchKind? {kind : Kind} (read : switchKind? word = some kind) :
    word = (switchWord kind).toList := by
  unfold switchKind? at read
  split_ifs at read with device modifier
  · cases read
    exact device
  · cases read
    exact modifier

/-! ## Commands -/

/-- What is read is a command without empty names that is written so; everything else is refused,
for the lack of a value or as unknown. -/
lemma parse_cases (identifier : String) (value : Option String) :
    (∃ c : Command, parse identifier value = .ok c ∧ c.Named ∧ c.WrittenAs identifier value) ∨
      parse identifier value = .error (.invalid (.valueNeeded identifier)) ∨
      parse identifier value = .error (.invalid (.unknownCommand identifier)) := by
  rw [parse]
  cases apart : Text.cut '/' identifier.toList with
  | none =>
    -- One word without a name in it: a word that needs no value is not asked for one.
    cases plain : plain? identifier.toList with
    | some c =>
      obtain ⟨nameless, free, written⟩ := of_plain? plain
      have named : c.Named := by
        rw [Named, nameless]
        exact List.forall_mem_nil _
      exact .inl ⟨c, rfl, named, String.toList_inj.mp written, .inl free⟩
    | none =>
      cases valued : valued? identifier.toList with
      | none => exact .inr (.inr rfl)
      | some make =>
        rcases required_cases identifier value with ⟨name, given, full, read⟩ | refused
        · obtain ⟨single, needed, written⟩ := of_valued? valued name
          have named : (make name).Named := by
            rw [Named, single]
            exact List.forall_mem_singleton.mpr full
          refine .inl ⟨make name, ?_, named, String.toList_inj.mp written, .inr ?_⟩
          · simp only [read]
            rfl
          · rw [given, needed]
        · simp only [refused]
          exact .inr (.inl rfl)
  | some pieces =>
    -- Only the two words for a switch have a name behind them, and the value is the other name.
    obtain ⟨word, old⟩ := pieces
    obtain ⟨joined, -⟩ := Text.cut_eq_some.mp apart
    cases switched : switchKind? word with
    | none =>
      refine .inr (.inr ?_)
      simp only [switched]
    | some kind =>
      simp only [switched]
      split_ifs with empty
      · exact .inr (.inr rfl)
      · rcases required_cases identifier value with ⟨new, given, full, read⟩ | refused
        · rw [read]
          have oldFull : String.ofList old ≠ "" := by
            rw [Ne, ← String.toList_eq_nil_iff, String.toList_ofList]
            exact empty
          have written : identifier = switchWord kind ++ "/" ++ String.ofList old := by
            rw [← String.toList_inj, joined, of_switchKind? switched, Text.toList_behind,
              String.toList_ofList]
          refine .inl ⟨switch kind (String.ofList old) new, rfl, ?_, written, .inr given⟩
          exact List.forall_mem_cons.mpr ⟨oldFull, List.forall_mem_singleton.mpr full⟩
        · rw [refused]
          exact .inr (.inl rfl)

/-- A command with a value is read from its word, if that is not mistaken for another one. -/
lemma parse_valued {make : String → Command} {name : String} (full : name ≠ "")
    (whole : Text.cut '/' identifier.toList = none) (other : plain? identifier.toList = none)
    (read : valued? identifier.toList = some make) :
    parse identifier (some name) = .ok (make name) := by
  rw [parse, whole]
  simp only [other, read]
  rw [required_some full]
  rfl

/-- A switch is read from its word, whatever its names are. -/
lemma parse_switch (kind : Kind) {old new : String} (oldFull : old ≠ "") (newFull : new ≠ "") :
    parse (switchWord kind ++ "/" ++ old) (some new) = .ok (switch kind old new) := by
  have whole : '/' ∉ (switchWord kind).toList := by cases kind <;> decide
  have word : switchKind? (switchWord kind).toList = some kind := by cases kind <;> rfl
  have some : old.toList ≠ [] := fun empty => oldFull (String.toList_eq_nil_iff.mp empty)
  rw [parse, Text.cut_behind whole]
  simp only [word, if_neg some, String.ofList_toList]
  rw [required_some newFull]
  rfl

/-- Every command without empty names is read from the way in which it is written. -/
lemma WrittenAs.parse (written : c.WrittenAs identifier value) (named : c.Named) :
    parse identifier value = .ok c := by
  obtain ⟨rfl, given⟩ := written
  cases c with
  | fixedBoot | boot | defaults => rfl
  | setVerb name =>
    obtain rfl := given.resolve_left nofun
    change Command.parse "_verb" (some name) = _
    exact parse_valued (named name List.mem_cons_self) rfl rfl rfl
  | enable kind name =>
    obtain rfl := given.resolve_left nofun
    have full := named name List.mem_cons_self
    cases kind with
    | device =>
      change Command.parse "_enadev" (some name) = _
      exact parse_valued full rfl rfl rfl
    | modifier =>
      change Command.parse "_enamod" (some name) = _
      exact parse_valued full rfl rfl rfl
  | disable kind name =>
    obtain rfl := given.resolve_left nofun
    have full := named name List.mem_cons_self
    cases kind with
    | device =>
      change Command.parse "_disdev" (some name) = _
      exact parse_valued full rfl rfl rfl
    | modifier =>
      change Command.parse "_dismod" (some name) = _
      exact parse_valued full rfl rfl rfl
  | switch kind old new =>
    obtain rfl := given.resolve_left nofun
    obtain ⟨oldFull, newFull⟩ := List.forall_mem_cons.mp named
    exact parse_switch kind oldFull (newFull new List.mem_cons_self)

/-- What is read is a command without empty names that is written so, and the other way round. -/
lemma parse_eq_ok : Command.parse identifier value = .ok c ↔
    c.Named ∧ c.WrittenAs identifier value := by
  refine ⟨fun read => ?_, fun ⟨named, written⟩ => written.parse named⟩
  rcases parse_cases identifier value with ⟨_, found, named, written⟩ | refused | refused
  · cases read.symm.trans found
    exact ⟨named, written⟩
  · cases read.symm.trans refused
  · cases read.symm.trans refused

/-- Every command whose names are not empty is read from its identifier and value. Whatever is read
is such a command, written in this way but for the value of a command that needs none; so a command
that needs one is read from a single identifier and value. Everything else is malformed. -/
theorem reads_as_written :
    (∀ c : Command, c.Named → Command.parse c.identifier c.value? = .ok c) ∧
    (∀ identifier value, ∀ c : Command, Command.parse identifier value = .ok c ↔
      c.Named ∧ c.WrittenAs identifier value) ∧
    (∀ identifier value identifier' value', ∀ c : Command, c.value? ≠ none →
      Command.parse identifier value = .ok c → Command.parse identifier' value' = .ok c →
        identifier = identifier' ∧ value = value') ∧
    ∀ identifier value, (¬ ∃ c : Command, c.Named ∧ c.WrittenAs identifier value) →
      ∃ cause ∈ [Malformed.valueNeeded identifier, .unknownCommand identifier],
        Command.parse identifier value = .error (.invalid cause) := by
  refine ⟨fun c named => ?_, fun _ _ _ => parse_eq_ok, ?_, fun identifier value unwritten => ?_⟩
  · exact parse_eq_ok.mpr ⟨named, rfl, .inr rfl⟩
  · intro identifier value identifier' value' c needed read read'
    obtain ⟨-, written⟩ := parse_eq_ok.mp read
    obtain ⟨-, written'⟩ := parse_eq_ok.mp read'
    have given := written.value.resolve_left needed
    have given' := written'.value.resolve_left needed
    exact ⟨written.identifier.trans written'.identifier.symm, given.trans given'.symm⟩
  · rcases parse_cases identifier value with ⟨c, -, named, written⟩ | refused | refused
    · exact absurd ⟨c, named, written⟩ unwritten
    · exact ⟨_, List.mem_cons_self, refused⟩
    · exact ⟨_, List.mem_cons_of_mem _ List.mem_cons_self, refused⟩

/-- Slashes, equals signs and blanks belong to the old name of a switch, and an empty new name is
refused. -/
theorem reads_switch_with_slashes :
    let c : Command := .switch .device "/HDMI = 1/" "Größe 2"
    c.Named ∧ c.value? ≠ none ∧ c.identifier = "_swdev//HDMI = 1/" ∧
      Command.parse "_swdev//HDMI = 1/" (some "Größe 2") = .ok c ∧
      (∀ identifier value, Command.parse identifier value = .ok c →
        identifier = "_swdev//HDMI = 1/" ∧ value = some "Größe 2") ∧
      ∃ cause, Command.parse "_swdev//HDMI = 1/" (some "") = .error (.invalid cause) := by
  intro c
  have named : c.Named := by decide
  have written : c.identifier = "_swdev//HDMI = 1/" := by decide
  have read := reads_as_written.1 c named
  rw [written] at read
  refine ⟨named, nofun, written, read, fun identifier value other => ?_, ?_⟩
  · exact reads_as_written.2.2.1 identifier value _ _ c nofun other read
  · have unwritten : ¬ ∃ c : Command, c.Named ∧ c.WrittenAs "_swdev//HDMI = 1/" (some "") := by
      rintro ⟨c', named', same⟩
      cases (reads_as_written.2.1 _ _ c').mpr ⟨named', same⟩
    obtain ⟨cause, -, refused⟩ := reads_as_written.2.2.2 _ _ unwritten
    exact ⟨cause, refused⟩

end UseCase.Command
