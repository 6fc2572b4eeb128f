import Mathlib.Tactic.Common
import UseCase.Proofs.Outcome
import UseCase.Proofs.Splitting
import UseCase.Proofs.SnapshotText

/-!
# Files that were written

A file that was written is found again under the path of the writing. The way that a path takes goes
through directories and links, and a writing changes neither: it puts one file to a place where
there was nothing or a file before. Only what a device takes may be lost.
-/

namespace UseCase

/-- A path has at least one segment. -/
lemma Path.segments_ne_nil (path : String) : Path.segments path ≠ [] := by
  rw [segments, Ne, List.map_eq_nil_iff]
  exact Text.segments_ne_nil _ _

/-- So has a path with a name behind it that is no text. -/
lemma FilePath.segments_ne_nil (path : FilePath) : path.segments ≠ [] := by
  rw [segments, Ne, List.append_eq_nil_iff, List.map_eq_nil_iff]
  exact fun none => Path.segments_ne_nil _ none.1

namespace FileTree

/-- Entries of the same kind; links hold the same path too. -/
inductive Alike : FileTree → FileTree → Prop
  | file {content content' : Content} {mode mode' : Nat} :
    Alike (.file content mode) (.file content' mode')
  | directory {entries entries' : List (FileName × FileTree)} {mode mode' : Nat} :
    Alike (.directory entries mode) (.directory entries' mode')
  | link {path : FilePath} : Alike (.link path) (.link path)
  | device {device : Device} {mode : Nat} : Alike (.device device mode) (.device device mode)

/-- Everything is like itself. -/
lemma Alike.refl : (t : FileTree) → Alike t t
  | .file _ _ => .file
  | .directory _ _ => .directory
  | .link _ => .link
  | .device _ _ => .device

/-- What was at a place is still there, up to the content of files and directories. -/
def Keeps (old new : Option FileTree) : Prop :=
  ∀ t, old = some t → ∃ t', new = some t' ∧ t.Alike t'

/-- What stays as it is is kept. -/
lemma Keeps.refl (t : Option FileTree) : Keeps t t :=
  fun t here => ⟨t, here, .refl t⟩

/-- There is nothing at a place, or a file. -/
def IsFree (old : Option FileTree) : Prop :=
  ∀ t, old = some t → ∃ content mode, t = .file content mode

/-- What can be opened for reading and writing: a file or a device. -/
inductive IsLeaf : FileTree → Prop
  | file {content : Content} {mode : Nat} : IsLeaf (.file content mode)
  | device {device : Device} {mode : Nat} : IsLeaf (.device device mode)

/-- The entry that was put is found under its name, and the others under theirs. -/
lemma child?_setEntry (name other : FileName) (t : FileTree) (entries : List (FileName × FileTree)) :
    child? other (setEntry name (some t) entries) =
      if name = other then some t else child? other entries := by
  induction entries with
  | nil =>
    by_cases same : name = other <;> simp [setEntry, child?, same]
  | cons entry entries ih =>
    obtain ⟨n, old⟩ := entry
    unfold child? at ih ⊢
    by_cases here : n = name
    · subst here
      by_cases same : n = other <;> simp [setEntry, same]
    · by_cases found : n = other
      · subst found
        simp [setEntry, here, Ne.symm here]
      · simpa [setEntry, here, found] using ih

/-- At the end of some names and one more lies the entry of the directory that the former lead to.
-/
lemma at?_concat (names : List FileName) (name : FileName) (t : FileTree) :
    at? (names ++ [name]) t = (at? names t).bind fun t => child? name t.children := by
  induction names generalizing t with
  | nil =>
    cases t with
    | directory entries mode =>
      rw [List.nil_append, at?, at?, Option.bind_some, children]
      cases child? name entries <;> simp [at?]
    | file | link | device => rfl
  | cons first names ih =>
    cases t with
    | directory entries mode =>
      rw [List.cons_append, at?, at?]
      cases child? first entries with
      | none => rfl
      | some t => exact ih t
    | file | link | device => rfl

/-- Nothing was below a free place, so nothing is lost there. -/
lemma keeps_below_file {content : Content} {mode : Nat} {old : Option FileTree} (free : IsFree old)
    (names : List FileName) :
    Keeps (old.bind (at? names)) (at? names (.file content mode)) := by
  intro t here
  obtain ⟨t', rfl, below⟩ := Option.bind_eq_some_iff.mp here
  obtain ⟨content', mode', rfl⟩ := free t' rfl
  cases names with
  | nil =>
    cases below
    exact ⟨_, rfl, .file⟩
  | cons => cases below

/-- What is put further down is put into the entry with the first name. -/
lemma setAt_cons {new : Option FileTree} {names : List FileName} (more : names ≠ [])
    (name : FileName) (entries : List (FileName × FileTree)) :
    setAt new (name :: names) entries =
      let old := (child? name entries).getD (.directory [] openMode)
      setEntry name (some (.directory (setAt new names old.children) old.mode)) entries := by
  rw [setAt]
  exact more

/-- What is on the way to a directory is a directory. -/
lemma directory_of_below {names : List FileName} {t : FileTree}
    {entries : List (FileName × FileTree)} {mode : Nat} (below : at? names t = some (.directory entries mode)) :
    ∃ entries' mode', t = .directory entries' mode' := by
  cases t with
  | directory entries' mode' => exact ⟨entries', mode', rfl⟩
  | file | link | device => cases names <;> cases below

/-- A file that is put into a directory is there afterwards, and all other places are kept. -/
theorem keeps_setAt (content : Content) (mode : Nat) {above : List FileName} {name : FileName}
    {entries inside : List (FileName × FileTree)} {m m' : Nat}
    (parent : at? above (.directory entries m) = some (.directory inside m'))
    (free : IsFree (child? name inside)) :
    let after := directory (setAt (some (.file content mode)) (above ++ [name]) entries) m
    at? (above ++ [name]) after = some (.file content mode) ∧
      ∀ names, Keeps (at? names (.directory entries m)) (at? names after) := by
  -- A place either lies below the first name of the way or is not touched at all.
  induction above generalizing entries m with
  | nil =>
    cases parent
    intro after
    refine ⟨?_, ?_⟩
    · simp only [after, List.nil_append, setAt, at?, child?_setEntry, if_true, Option.bind_some]
    · rintro (_ | ⟨other, names⟩)
      · exact fun t here => ⟨after, rfl, by cases here; exact .directory⟩
      · simp only [after, List.nil_append, setAt, at?, child?_setEntry]
        split_ifs with same
        · subst same
          exact keeps_below_file free names
        · exact .refl _
  | cons first above ih =>
    rw [at?, Option.bind_eq_some_iff] at parent
    obtain ⟨t, found, below⟩ := parent
    obtain ⟨entries', mode', rfl⟩ := directory_of_below below
    obtain ⟨put, kept⟩ := ih below
    have more : above ++ [name] ≠ [] := List.concat_ne_nil _ _
    simp only [List.cons_append, setAt_cons more, found, Option.getD_some, at?, child?_setEntry,
      if_true, Option.bind_some, children, FileTree.mode]
    refine ⟨put, ?_⟩
    rintro (_ | ⟨other, names⟩)
    · exact fun t here => ⟨_, rfl, by cases here; exact .directory⟩
    · simp only [at?, child?_setEntry]
      split_ifs with same
      · subst same
        rw [found]
        exact kept names
      · exact .refl _

end FileTree

namespace Files

open FileTree

/-- At the end of some names and one more lies the entry of the directory that the former lead to.
-/
lemma at?_concat (fs : Files) (names : List FileName) (name : FileName) :
    fs.at? (names ++ [name]) = (fs.at? names).bind fun t => child? name t.children :=
  FileTree.at?_concat names name _

/-- There are entries at the end of names exactly if a directory is there. -/
lemma entriesAt_eq_ok {fs : Files} {here : List FileName} {entries : List (FileName × FileTree)} :
    fs.entriesAt here = .ok entries ↔ ∃ mode, fs.at? here = some (.directory entries mode) := by
  rw [entriesAt]
  split
  · rename_i entries' mode found
    rw [found]
    constructor
    · rintro ⟨⟩
      exact ⟨mode, rfl⟩
    · rintro ⟨_, ⟨⟩⟩
      rfl
  · rename_i other
    constructor
    · nofun
    · rintro ⟨mode, found⟩
      exact absurd found (other entries mode)

/-- The entry with a name is what lies one name further. -/
lemma child?_of_entriesAt {fs : Files} {here : List FileName} {entries : List (FileName × FileTree)}
    (found : fs.entriesAt here = .ok entries) (name : FileName) :
    child? name entries = fs.at? (here ++ [name]) := by
  obtain ⟨mode, directory⟩ := entriesAt_eq_ok.mp found
  rw [at?_concat, directory]
  rfl

/-- Where a segment leads once its directory is known. -/
lemma step_eq {fs : Files} {here : List FileName} {entries : List (FileName × FileTree)}
    (found : fs.entriesAt here = .ok entries) (segment : FileName) :
    fs.step here segment =
      if segment.isIdle then .ok (.place here)
      else if segment = ".." then .ok (.place here.dropLast)
      else if segment.isTooLong then .error .nameTooLong
      else .ok (.ofEntry (here ++ [segment]) (fs.at? (here ++ [segment]))) := by
  rw [step, found, ok_bind, child?_of_entriesAt found]

/-- A place in a directory where a file may be put, unless there is a device. -/
def IsSpot (fs : Files) (names : List FileName) : Prop :=
  ∃ above name entries, names = above ++ [name] ∧ fs.entriesAt above = .ok entries ∧
    ∀ t, fs.at? names = some t → t.IsLeaf

/-- Files after something was written to a place. -/
structure Filled (fs fs' : Files) (names : List FileName) : Prop where
  kept (names : List FileName) : Keeps (fs.at? names) (fs'.at? names)
  filled : ∃ t, fs'.at? names = some t ∧ t.IsLeaf

/-- A segment leads from a directory only. -/
lemma entriesAt_of_step {fs : Files} {here : List FileName} {segment : FileName} {lead : Lead}
    (reached : fs.step here segment = .ok lead) : ∃ entries, fs.entriesAt here = .ok entries := by
  cases found : fs.entriesAt here with
  | ok entries => exact ⟨entries, rfl⟩
  | error =>
    rw [step, found] at reached
    cases reached

section

variable {fs fs' : Files} {names here : List FileName}

/-- A directory is still one afterwards. -/
lemma Filled.entriesAt (after : Filled fs fs' names) {entries : List (FileName × FileTree)}
    (found : fs.entriesAt here = .ok entries) : ∃ entries', fs'.entriesAt here = .ok entries' := by
  obtain ⟨mode, found⟩ := entriesAt_eq_ok.mp found
  obtain ⟨t, kept, alike⟩ := after.kept here _ found
  cases alike with
  | directory => exact ⟨_, entriesAt_eq_ok.mpr ⟨_, kept⟩⟩

/-- Where a segment leads somewhere, it leads there afterwards. -/
lemma Filled.step (after : Filled fs fs' names) {segment : FileName} {lead : Lead}
    (reached : fs.step here segment = .ok lead) (somewhere : lead ≠ .nowhere) :
    fs'.step here segment = .ok lead := by
  obtain ⟨entries, found⟩ := entriesAt_of_step reached
  obtain ⟨entries', found'⟩ := after.entriesAt found
  rw [step_eq found] at reached
  rw [step_eq found']
  split_ifs at reached ⊢
  · exact reached
  · exact reached
  · rw [← reached]
    cases there : fs.at? (here ++ [segment]) with
    | none =>
      rw [there] at reached
      exact absurd (Except.ok.inj reached).symm somewhere
    | some t =>
      obtain ⟨t', kept, alike⟩ := after.kept _ t there
      rw [kept]
      cases alike <;> rfl

/-- A way that is followed to a place for a file, and the way that is followed once it is there. -/
def Lands (fs fs' : Files) (along along' : Walk) : Prop :=
  ∀ here segments names, segments ≠ [] → along here segments = .ok names →
    fs.IsSpot names ∧ (Filled fs fs' names → along' here segments = .ok names)

/-- A name that is neither idle nor leads up leads to the entry with this name. -/
lemma step_named {name : FileName} (busy : name.isIdle = false) (down : name ≠ "..")
    {lead : Lead} :
    fs.step here name = .ok lead ↔ (∃ entries, fs.entriesAt here = .ok entries) ∧
      name.isTooLong = false ∧
        lead = .ofEntry (here ++ [name]) (fs.at? (here ++ [name])) := by
  constructor
  · intro reached
    obtain ⟨entries, found⟩ := entriesAt_of_step reached
    rw [step_eq found, busy, if_neg Bool.false_ne_true, if_neg down] at reached
    split_ifs at reached with long
    exact ⟨⟨entries, found⟩, Bool.not_eq_true _ ▸ long, (Except.ok.inj reached).symm⟩
  · rintro ⟨⟨entries, found⟩, short, rfl⟩
    rw [step_eq found, busy, if_neg Bool.false_ne_true, if_neg down, short,
      if_neg Bool.false_ne_true]

/-- A walk goes on from the place to which a segment leads. -/
lemma walk_place {along : Walk} {segment : FileName} {next rest : List FileName}
    (step : fs.step here segment = .ok (.place next)) :
    fs.walk false along here (segment :: rest) = fs.walk false along next rest := by
  rw [Files.walk, step]
  rfl

/-- A walk goes on along the path of a link to which a segment leads. -/
lemma walk_link {along : Walk} {segment : FileName} {path : FilePath} {rest : List FileName}
    (step : fs.step here segment = .ok (.link path)) :
    fs.walk false along here (segment :: rest) =
      along (startOf here path) (path.segments ++ rest) := by
  rw [Files.walk, step]
  rfl

/-- The last name of a path is followed to a place for a file, and to the same place once something
is there. -/
lemma Lands.aim {along along' : Walk} (lands : Lands fs fs' along along') {name : FileName}
    {slashes : List FileName} (reached : fs.aim along here name slashes = .ok names) :
    slashes = [] ∧ fs.IsSpot names ∧
      (Filled fs fs' names → fs'.walk false along' here [name] = .ok names) := by
  rw [Files.aim, bind_eq_ok] at reached
  obtain ⟨entries, found, reached⟩ := reached
  split_ifs at reached with noFile
  simp only [Bool.or_eq_true, Bool.not_eq_true', List.isEmpty_eq_false_iff, beq_iff_eq, not_or,
    not_not, Bool.not_eq_true] at noFile
  obtain ⟨⟨rfl, busy⟩, down⟩ := noFile
  rw [bind_eq_ok] at reached
  obtain ⟨lead, step, reached⟩ := reached
  obtain ⟨-, short, here'⟩ := (step_named busy down).mp step
  refine ⟨rfl, ?_⟩
  cases there : fs.at? (here ++ [name]) with
  | none =>
    -- The file is new: nothing leads there yet, and later the entry that was made.
    obtain rfl : lead = .nowhere := here'.trans (by rw [there]; rfl)
    cases reached
    refine ⟨⟨here, name, entries, rfl, found, by rw [there]; rintro _ ⟨⟩⟩, fun after => ?_⟩
    obtain ⟨t, filled, leaf⟩ := after.filled
    refine walk_place ((step_named busy down).mpr ⟨after.entriesAt found, short, ?_⟩)
    rw [filled]
    cases leaf <;> rfl
  | some t =>
    rw [there] at here'
    cases t with
    | file | device =>
      obtain rfl : lead = .place (here ++ [name]) := here'
      simp only [there] at reached
      cases reached
      refine ⟨⟨here, name, entries, rfl, found, ?_⟩, fun after => ?_⟩
      · rw [there]
        rintro _ ⟨⟩
        constructor
      · exact walk_place (after.step step (by simp))
    | directory =>
      obtain rfl : lead = .place (here ++ [name]) := here'
      simp only [there] at reached
      cases reached
    | link path =>
      obtain rfl : lead = .link path := here'
      obtain ⟨spot, follows⟩ := lands _ _ _ (FilePath.segments_ne_nil _) reached
      refine ⟨spot, fun after => ?_⟩
      rw [walk_link (after.step step (by simp)), List.append_nil]
      exact follows after

/-- The rest of a path is followed in the same way, since all that is left of it has to be there. -/
lemma Lands.walk {along along' : Walk} (lands : Lands fs fs' along along') :
    Lands fs fs' (fs.walk true along) (fs'.walk false along') := by
  intro here segments
  induction segments generalizing here with
  | nil => exact fun _ some => absurd rfl some
  | cons segment rest ih =>
    intro names _ reached
    rw [Files.walk] at reached
    split_ifs at reached with last
    · obtain ⟨rfl, spot, follows⟩ := lands.aim reached
      exact ⟨spot, follows⟩
    · have more : rest ≠ [] := fun none => last (by rw [none]; rfl)
      rw [bind_eq_ok] at reached
      obtain ⟨lead, step, reached⟩ := reached
      cases lead with
      | nowhere => cases reached
      | place next =>
        obtain ⟨spot, follows⟩ := ih next names more reached
        refine ⟨spot, fun after => ?_⟩
        rw [walk_place (after.step step (by simp))]
        exact follows after
      | link path =>
        obtain ⟨spot, follows⟩ := lands _ _ _ (List.append_ne_nil_of_right_ne_nil _ more) reached
        refine ⟨spot, fun after => ?_⟩
        rw [walk_link (after.step step (by simp))]
        exact follows after

/-- A path that is followed to a place for a file is followed to it once something is there. -/
lemma lands_followWithin (fs fs' : Files) (links : Nat) :
    Lands fs fs' (fs.followWithin true links) (fs'.followWithin false links) := by
  induction links with
  | zero =>
    have lost : Lands fs fs' (fun _ _ => .error .tooManyLinks) fun _ _ => .error .tooManyLinks :=
      nofun
    exact lost.walk
  | succ links ih => exact ih.walk

end

/-- What is put to a place is there afterwards, unless there is a device, which stays. -/
lemma filled_put (fs : Files) {names : List FileName} (spot : fs.IsSpot names)
    (content : Content) :
    Filled fs (fs.put names content) names ∧
      ((∃ mode, (fs.put names content).at? names = some (.file content mode)) ∨
        ∃ device mode, (fs.put names content).at? names = some (.device device mode)) := by
  obtain ⟨above, name, entries, rfl, found, leaf⟩ := spot
  by_cases held : ∃ device mode, fs.at? (above ++ [name]) = some (.device device mode)
  · obtain ⟨device, mode, there⟩ := held
    have unchanged : fs.put (above ++ [name]) content = fs := by rw [put, putWith, there]
    rw [unchanged]
    exact ⟨⟨fun _ => .refl _, _, there, .device⟩, .inr ⟨device, mode, there⟩⟩
  · obtain ⟨m, parent⟩ := entriesAt_eq_ok.mp found
    have free : IsFree (child? name entries) := by
      rw [child?_of_entriesAt found]
      intro t there
      cases leaf t there with
      | file => exact ⟨_, _, rfl⟩
      | device => exact absurd ⟨_, _, there⟩ held
    have set : fs.put (above ++ [name]) content = fs.set (above ++ [name])
        (some (.file content (fs.modeOr (above ++ [name]) plainMode))) := by
      rw [put, putWith]
      split
      · rename_i there
        exact absurd ⟨_, _, there⟩ held
      · rfl
    obtain ⟨put, kept⟩ :=
      keeps_setAt content (fs.modeOr (above ++ [name]) plainMode) parent free
    rw [set]
    exact ⟨⟨kept, _, put, .file⟩, .inl ⟨_, put⟩⟩

/-- What is written is put to the place where the path leads. -/
lemma write_eq_ok {path : FilePath} {content : String} {fs fs' : Files}
    (written : write path content fs = .ok () fs') :
    ∃ names, fs.target path = .ok names ∧ fs' = fs.put names (.text content) := by
  rw [write, Outcome.bind_ok (Outcome.get_apply fs)] at written
  cases aimed : fs.target path with
  | error cause =>
    rw [aimed, Outcome.bind_error (Outcome.ofExcept_error cause fs)] at written
    cases written
  | ok names =>
    rw [aimed, Outcome.bind_ok (Outcome.ofExcept_ok names fs),
      Outcome.bind_ok (Outcome.get_apply fs)] at written
    cases accepted : fs.accepts names with
    | error cause =>
      rw [accepted, Outcome.bind_error (Outcome.ofExcept_error cause fs)] at written
      cases written
    | ok =>
      rw [accepted, Outcome.bind_ok (Outcome.ofExcept_ok () fs)] at written
      cases written
      exact ⟨names, rfl, rfl⟩

/-- Where something was put, the path to its place leads. -/
lemma locate_of_target {path : FilePath} (fs fs' : Files) {names : List FileName}
    (same : fs'.working = fs.working) (aimed : fs.target path = .ok names) :
    fs.IsSpot names ∧ (Filled fs fs' names → fs'.locate path = .ok names) := by
  rw [target, bind_eq_ok] at aimed
  obtain ⟨⟨⟩, checked, aimed⟩ := aimed
  split_ifs at aimed with isEmpty
  · cases aimed
  · have lands := lands_followWithin fs fs' maxLinks
    obtain ⟨spot, follows⟩ := lands _ _ _ path.segments_ne_nil aimed
    refine ⟨spot, fun after => ?_⟩
    rw [locate, checked, ok_bind, if_neg isEmpty, start, same]
    exact follows after

/-- Writing leaves the working directory. -/
lemma working_put (fs : Files) (names : List FileName) (content : Content) :
    (fs.put names content).working = fs.working := by
  rw [put, putWith]
  split <;> rfl

/-- What was written is found where it was written, unless a device took it. -/
theorem find_write {path : FilePath} {content : String} {fs fs' : Files}
    (written : write path content fs = .ok () fs') :
    (∃ mode, fs'.find path = .ok (.file (.text content) mode)) ∨
      ∃ device mode, fs'.find path = .ok (.device device mode) := by
  obtain ⟨names, aimed, rfl⟩ := write_eq_ok written
  obtain ⟨spot, leads⟩ := locate_of_target fs (fs.put names (.text content))
    (fs.working_put names _) aimed
  obtain ⟨filled, there⟩ := fs.filled_put spot (.text content)
  rw [find, leads filled, ok_bind]
  rcases there with ⟨mode, there⟩ | ⟨device, mode, there⟩
  · exact .inl ⟨mode, by rw [there]; rfl⟩
  · exact .inr ⟨device, mode, by rw [there]; rfl⟩

end Files

namespace Snapshot

/-- A snapshot that was saved to a file is loaded again. -/
theorem load_save {s : Snapshot} {path : String} {fs fs' : Files}
    (saved : s.save path fs = .ok () fs') (file : fs'.isFile path = true) :
    load fs' path = .ok (some s) := by
  rw [save, Outcome.adaptExcept_apply, Outcome.bind_apply] at saved
  cases made : Files.createParent path fs with
  | error => simp only [made] at saved; cases saved
  | ok _ between =>
    simp only [made] at saved
    cases written : Files.write path s.text between with
    | error => simp only [written] at saved; cases saved
    | ok _ fs'' =>
      simp only [written] at saved
      cases saved
      obtain ⟨mode, found⟩ : ∃ mode, fs'.find path = .ok (.file (.text s.text) mode) := by
        rcases Files.find_write written with found | ⟨device, mode, found⟩
        · exact found
        · rw [Files.isFile, found] at file
          cases file
      have contains : fs'.contains path = true := by rw [Files.contains, found]
      have read : fs'.read path = .ok s.text := by rw [Files.read, found]; rfl
      rw [load, if_pos contains, read]
      simp only [Except.mapError, ok_bind, ofText_text]
      rfl

end Snapshot

end UseCase
