import UseCase.Proofs.Paths
import UseCase.Proofs.Storage

/-!
# Ways of paths

`Files.Leads` is the way that segments take from a directory, one step after another, with the
number of links that may still come. It is what following a path computes, and it can be cut
anywhere: so a path below another one leads where its last name leads from the end of the other.
-/

namespace UseCase.Files

open FileTree

/-- Segments lead from the directory `here` to the place `there` through at most `links` links, so
many more of which may follow as `left` says. -/
inductive Leads (fs : Files) :
    (links : Nat) → (here segments : List FileName) → (left : Nat) → (there : List FileName) → Prop
  | here {links : Nat} {here : List FileName} : Leads fs links here [] links here
  | place {links left : Nat} {here next rest there : List FileName} {segment : FileName} :
    fs.step here segment = .ok (.place next) → Leads fs links next rest left there →
      Leads fs links here (segment :: rest) left there
  | link {links left : Nat} {here rest there : List FileName} {segment : FileName}
    {path : FilePath} :
    fs.step here segment = .ok (.link path) →
      Leads fs links (startOf here path) (path.segments ++ rest) left there →
      Leads fs (links + 1) here (segment :: rest) left there

section

variable {fs : Files} {links between left : Nat} {here mid there segments front back : List FileName}
  {segment name : FileName} {path : FilePath} {base : String}

/-- A walk leads on if `along` does, with one link less. -/
lemma leads_of_walk {along : Walk}
    (follows : ∀ here segments, along here segments = .ok there →
      ∃ fewer left, links = fewer + 1 ∧ fs.Leads fewer here segments left there)
    (walked : fs.walk false along here segments = .ok there) :
    ∃ left, fs.Leads links here segments left there := by
  induction segments generalizing here with
  | nil =>
    cases walked
    exact ⟨links, .here⟩
  | cons segment rest ih =>
    cases step : fs.step here segment with
    | error cause =>
      rw [walk, step] at walked
      cases walked
    | ok lead =>
      cases lead with
      | nowhere =>
        rw [walk, step] at walked
        cases walked
      | place next =>
        rw [walk_place step] at walked
        obtain ⟨left, leads⟩ := ih walked
        exact ⟨left, .place step leads⟩
      | link path =>
        rw [walk_link step] at walked
        obtain ⟨fewer, left, rfl, leads⟩ := follows _ _ walked
        exact ⟨left, .link step leads⟩

/-- Following segments finds the place to which they lead. -/
lemma followWithin_eq_ok :
    fs.followWithin false links here segments = .ok there ↔
      ∃ left, fs.Leads links here segments left there := by
  constructor
  · intro followed
    induction links generalizing here segments with
    | zero =>
      rw [followWithin] at followed
      refine leads_of_walk ?_ followed
      nofun
    | succ links ih =>
      rw [followWithin] at followed
      refine leads_of_walk (fun here segments followed => ?_) followed
      obtain ⟨left, leads⟩ := ih followed
      exact ⟨links, left, rfl, leads⟩
  · rintro ⟨left, leads⟩
    induction leads with
    | @here links => cases links <;> rfl
    | @place links _ _ _ _ _ _ step _ ih =>
      rw [← ih]
      cases links <;> exact walk_place step
    | link step _ ih => exact (walk_link step).trans ih

/-- Two ways in a row are one. -/
lemma Leads.append (first : fs.Leads links here front between mid)
    (second : fs.Leads between mid back left there) :
    fs.Leads links here (front ++ back) left there := by
  induction first with
  | here => exact second
  | place step _ ih => exact .place step (ih second)
  | link step _ ih =>
    have further := ih second
    rw [List.append_assoc] at further
    exact .link step further

/-- A way can be cut anywhere. -/
lemma leads_append :
    fs.Leads links here (front ++ back) left there ↔ ∃ between mid,
      fs.Leads links here front between mid ∧ fs.Leads between mid back left there := by
  constructor
  · intro leads
    generalize whole : front ++ back = segments at leads
    induction leads generalizing front with
    | here =>
      obtain ⟨rfl, rfl⟩ := List.append_eq_nil_iff.mp whole
      exact ⟨_, _, .here, .here⟩
    | place step leads ih =>
      cases front with
      | nil =>
        rw [List.nil_append] at whole
        subst whole
        exact ⟨_, _, .here, .place step leads⟩
      | cons first front =>
        obtain ⟨rfl, rfl⟩ := List.cons.inj whole
        obtain ⟨between, mid, before, after⟩ := ih rfl
        exact ⟨between, mid, .place step before, after⟩
    | @link _ _ _ _ _ _ path step leads ih =>
      cases front with
      | nil =>
        rw [List.nil_append] at whole
        subst whole
        exact ⟨_, _, .here, .link step leads⟩
      | cons first front =>
        obtain ⟨rfl, rfl⟩ := List.cons.inj whole
        obtain ⟨between, mid, before, after⟩ :=
          @ih (path.segments ++ front) (List.append_assoc _ _ _)
        exact ⟨between, mid, .link step before, after⟩
  · rintro ⟨between, mid, first, second⟩
    exact first.append second

/-- Segments lead to one place. -/
lemma Leads.unique {left' : Nat} {there' : List FileName}
    (leads : fs.Leads links here segments left there)
    (leads' : fs.Leads links here segments left' there') : left = left' ∧ there = there' := by
  induction leads with
  | here =>
    cases leads'
    exact ⟨rfl, rfl⟩
  | place step _ ih =>
    cases leads' with
    | place step' leads' =>
      cases step.symm.trans step'
      exact ih leads'
    | link step' _ => cases step.symm.trans step'
  | link step _ ih =>
    cases leads' with
    | place step' _ => cases step.symm.trans step'
    | link step' leads' =>
      cases step.symm.trans step'
      exact ih leads'

/-- Where a way has a first segment, it starts in a directory. -/
lemma Leads.entriesAt (leads : fs.Leads links here (segment :: segments) left there) :
    ∃ entries, fs.entriesAt here = .ok entries := by
  cases leads with
  | place step _ => exact entriesAt_of_step step
  | link step _ => exact entriesAt_of_step step

/-- A segment that leads nowhere stays where it is, in a directory. -/
lemma step_idle (idle : segment.isIdle = true) {lead : Lead} :
    fs.step here segment = .ok lead ↔
      lead = .place here ∧ ∃ entries, fs.entriesAt here = .ok entries := by
  constructor
  · intro reached
    obtain ⟨entries, found⟩ := entriesAt_of_step reached
    rw [step_eq found, if_pos idle] at reached
    exact ⟨(Except.ok.inj reached).symm, entries, found⟩
  · rintro ⟨rfl, entries, found⟩
    rw [step_eq found, if_pos idle]

/-- A segment that leads nowhere only asks for a directory. -/
lemma leads_idle (idle : segment.isIdle = true) :
    fs.Leads links here (segment :: segments) left there ↔
      (∃ entries, fs.entriesAt here = .ok entries) ∧ fs.Leads links here segments left there := by
  constructor
  · intro leads
    refine ⟨leads.entriesAt, ?_⟩
    cases leads with
    | place step leads =>
      cases ((step_idle idle).mp step).1
      exact leads
    | link step _ => cases ((step_idle idle).mp step).1
  · rintro ⟨directory, leads⟩
    exact .place ((step_idle idle).mpr ⟨rfl, directory⟩) leads

/-- An entry that is found under a name is one of the entries. -/
lemma child?_mem {entries : List (FileName × FileTree)} {t : FileTree}
    (found : child? name entries = some t) : (name, t) ∈ entries := by
  obtain ⟨⟨name', t'⟩, entry, rfl⟩ := Option.map_eq_some_iff.mp found
  have same := List.find?_some entry
  obtain rfl : name' = name := beq_iff_eq.mp same
  exact List.mem_of_find?_eq_some entry

/-- A way through a name goes through an entry with this name. -/
lemma Leads.mem_entries (leads : fs.Leads links here (name :: segments) left there)
    (busy : name.isIdle = false) (down : name ≠ "..") {entries : List (FileName × FileTree)}
    (found : fs.entriesAt here = .ok entries) : name ∈ entries.map Prod.fst := by
  have entry {lead : Lead} (reached : fs.step here name = .ok lead) (somewhere : lead ≠ .nowhere) :
      name ∈ entries.map Prod.fst := by
    obtain ⟨-, -, rfl⟩ := (step_named busy down).mp reached
    rw [← child?_of_entriesAt found] at somewhere
    cases there : child? name entries with
    | none =>
      rw [there] at somewhere
      exact absurd rfl somewhere
    | some t => exact List.mem_map_of_mem (child?_mem there)
  cases leads with
  | place step _ => exact entry step (by simp)
  | link step _ => exact entry step (by simp)

/-! ## Paths -/

/-- The way of a path from where it starts. -/
def Way (fs : Files) (path : FilePath) : (left : Nat) → (there : List FileName) → Prop :=
  fs.Leads maxLinks (fs.start path) path.segments

/-- The system looks at paths without the character that ends texts and of a bounded length. -/
lemma checkPath_eq_ok :
    checkPath path = .ok () ↔ '\x00' ∉ path.text.toList ∧ path.isTooLong = false := by
  rw [checkPath]
  split_ifs with nul long
  · exact iff_of_false nofun fun short => short.1 (List.contains_iff_mem.mp nul)
  · exact iff_of_false nofun fun short => Bool.false_ne_true (short.2.symm.trans long)
  · refine iff_of_true rfl ⟨fun member => nul (List.contains_iff_mem.mpr member), ?_⟩
    exact Bool.not_eq_true _ ▸ long

/-- A path that is a text may have so many bytes. -/
lemma checkPath_text {path : String} :
    checkPath path = .ok () ↔ '\x00' ∉ path.toList ∧ path.utf8ByteSize < 4096 := by
  rw [checkPath_eq_ok, FilePath.isTooLong, Path.isTooLong, decide_eq_false_iff_not, Nat.not_le]

/-- The system looks at a path if it looks at one below it. -/
lemma checkPath_of_join {name : String} (segment : Path.IsSegment name) (full : base ≠ "")
    (checked : checkPath (Path.join base name) = .ok ()) : checkPath base = .ok () := by
  rw [checkPath_text, Path.join_eq segment full, String.append_assoc, String.toList_append,
    String.utf8ByteSize_append, List.mem_append, not_or] at checked
  exact checkPath_text.mpr ⟨checked.1.1, by omega⟩

/-- A path is shorter than those below it. -/
lemma checkPath_of_below (segment : name.IsSegment) (full : base ≠ "")
    (checked : checkPath (.below base name) = .ok ()) : checkPath base = .ok () := by
  cases name with
  | text name => exact checkPath_of_join segment full checked
  | foreign name =>
    obtain ⟨noNul, short⟩ := checkPath_eq_ok.mp checked
    refine checkPath_text.mpr ⟨noNul, ?_⟩
    rw [FilePath.below, FilePath.isTooLong, decide_eq_false_iff_not, Nat.not_le,
      Path.join_eq (by decide) full, String.append_empty, String.utf8ByteSize_append] at short
    omega

/-- A path without one of its names is shorter. -/
lemma checkPath_of_inner {name last : String} (segment : Path.IsSegment name)
    (segment' : Path.IsSegment last) (full : base ≠ "")
    (checked : checkPath (Path.join (Path.join base name) last) = .ok ()) :
    checkPath (Path.join base last) = .ok () := by
  rw [checkPath_text, Path.join_eq segment' (Path.join_ne_empty segment full),
    Path.join_eq segment full] at checked
  rw [checkPath_text, Path.join_eq segment' full]
  simp only [String.toList_append, String.utf8ByteSize_append, List.mem_append, not_or]
    at checked ⊢
  exact ⟨⟨checked.1.1.1.1, checked.1.2⟩, by omega⟩

/-- A path leads to a place if the system looks at it and its way ends there. -/
lemma locate_eq_ok :
    fs.locate path = .ok there ↔
      checkPath path = .ok () ∧ path.isEmpty = false ∧ ∃ left, fs.Way path left there := by
  rw [locate, bind_eq_ok]
  constructor
  · rintro ⟨⟨⟩, checked, located⟩
    split_ifs at located with empty
    exact ⟨checked, Bool.not_eq_true _ ▸ empty, followWithin_eq_ok.mp located⟩
  · rintro ⟨checked, full, way⟩
    refine ⟨(), checked, ?_⟩
    rw [full, if_neg Bool.false_ne_true]
    exact followWithin_eq_ok.mpr way

/-- The way of a path below another one is its way and then the one of the name. -/
lemma way_join {name : String} (segment : Path.IsSegment name) (full : base ≠ "") :
    fs.Way (Path.join base name) left there ↔
      ∃ between here, fs.Way base between here ∧ fs.Leads between here [↑name] left there := by
  have start : fs.start (Path.join base name) = fs.start base := by
    rw [Files.start, startOf, FilePath.isAbsolute, Path.isAbsolute_join segment full]
    rfl
  obtain ⟨lead, joined, above⟩ := Path.segments_join segment full
  have joined' : (Path.join base name : FilePath).segments = lead.map .text ++ [.text name] := by
    rw [FilePath.segments_text, joined, List.map_append, List.map_singleton]
  rw [Way, start, joined', leads_append]
  rcases above with above | above
  · simp only [Way, FilePath.segments_text, above]
  · -- The empty segment asks for the directory that the name needs as well.
    refine exists_congr fun between => exists_congr fun here => ?_
    rw [Way, FilePath.segments_text, above, List.map_append, List.map_singleton, leads_append]
    constructor
    · rintro ⟨before, named⟩
      exact ⟨⟨between, here, before, (leads_idle rfl).mpr ⟨named.entriesAt, .here⟩⟩, named⟩
    · rintro ⟨⟨between', here', before, slash⟩, named⟩
      cases ((leads_idle rfl).mp slash).2
      exact ⟨before, named⟩

/-- The way of an entry is that of its directory and then the one of its name. -/
lemma way_below (segment : name.IsSegment) (full : base ≠ "") :
    fs.Way (.below base name) left there ↔
      ∃ between here, fs.Way base between here ∧ fs.Leads between here [name] left there := by
  cases name with
  | text name => exact way_join segment full
  | foreign name =>
    have start : fs.start ⟨base, some name⟩ = fs.start base := rfl
    rw [FilePath.below, Way, start, FilePath.segments, leads_append]
    simp only [Way, FilePath.segments_text, Option.toList_some, List.map_singleton]

/-- A path leads to what lies at the end of its names. -/
lemma find_eq_ok {t : FileTree} :
    fs.find path = .ok t ↔ ∃ there, fs.locate path = .ok there ∧ fs.at? there = some t := by
  rw [find, bind_eq_ok]
  refine exists_congr fun there => and_congr_right fun _ => ?_
  split
  · rename_i t' found
    rw [found]
    exact ⟨fun same => congrArg some (Except.ok.inj same), fun same => by cases same; rfl⟩
  · rename_i none
    rw [none]
    exact iff_of_false (fun failed => by cases failed) fun failed => by cases failed

/-- A path is that of a file if it leads to one. -/
lemma isFile_iff :
    fs.isFile path = true ↔ ∃ content mode, fs.find path = .ok (.file content mode) := by
  rw [isFile]
  split
  · rename_i content mode found
    exact iff_of_true rfl ⟨content, mode, found⟩
  · rename_i other
    refine iff_of_false Bool.false_ne_true ?_
    rintro ⟨content, mode, found⟩
    exact other content mode found

/-- A path is that of a directory if it leads to one. -/
lemma isDirectory_iff :
    fs.isDirectory path = true ↔ ∃ entries mode, fs.find path = .ok (.directory entries mode) := by
  rw [isDirectory]
  cases fs.find path with
  | error cause => exact iff_of_false nofun nofun
  | ok t =>
    cases t with
    | directory entries mode => exact iff_of_true rfl ⟨entries, mode, rfl⟩
    | file | link | device => exact iff_of_false nofun nofun

/-- A path is that of a file if it leads to the place of one. -/
lemma isFile_iff_located :
    fs.isFile path = true ↔ ∃ there content mode, fs.locate path = .ok there ∧
      fs.at? there = some (.file content mode) := by
  simp only [isFile_iff, find_eq_ok]
  constructor
  · rintro ⟨content, mode, there, located, last⟩
    exact ⟨there, content, mode, located, last⟩
  · rintro ⟨there, content, mode, located, last⟩
    exact ⟨content, mode, there, located, last⟩

/-- A path is that of a directory if it leads to the place of one. -/
lemma isDirectory_iff_located :
    fs.isDirectory path = true ↔ ∃ there entries mode, fs.locate path = .ok there ∧
      fs.at? there = some (.directory entries mode) := by
  simp only [isDirectory_iff, find_eq_ok]
  constructor
  · rintro ⟨entries, mode, there, located, last⟩
    exact ⟨there, entries, mode, located, last⟩
  · rintro ⟨there, entries, mode, located, last⟩
    exact ⟨entries, mode, there, located, last⟩

/-- A path leads to a file or to a device. -/
def HasLeaf (fs : Files) (path : FilePath) : Prop :=
  ∃ t, fs.find path = .ok t ∧ t.IsLeaf

/-- The path of a file leads to a file or device. -/
lemma hasLeaf_of_isFile (file : fs.isFile path = true) : fs.HasLeaf path := by
  obtain ⟨content, mode, found⟩ := isFile_iff.mp file
  exact ⟨_, found, .file⟩

/-- A path leads to a file or device if it leads to the place of one. -/
lemma hasLeaf_iff_located :
    fs.HasLeaf path ↔ ∃ there t, fs.locate path = .ok there ∧ fs.at? there = some t ∧ t.IsLeaf := by
  simp only [HasLeaf, find_eq_ok]
  constructor
  · rintro ⟨t, ⟨there, located, last⟩, leaf⟩
    exact ⟨there, t, located, last, leaf⟩
  · rintro ⟨there, t, located, last, leaf⟩
    exact ⟨t, ⟨there, located, last⟩, leaf⟩

/-- A file or device is no directory. -/
lemma isDirectory_of_hasLeaf (leaf : fs.HasLeaf path) : fs.isDirectory path = false := by
  obtain ⟨t, found, leaf⟩ := leaf
  rw [isDirectory, found]
  cases leaf <;> rfl

/-- A file is no directory. -/
lemma isDirectory_of_isFile (file : fs.isFile path = true) : fs.isDirectory path = false :=
  isDirectory_of_hasLeaf (hasLeaf_of_isFile file)

/-- The empty path is not that of a directory. -/
lemma ne_empty_of_isDirectory {path : String} (directory : fs.isDirectory path = true) :
    path ≠ "" := by
  obtain ⟨there, entries, mode, located, -⟩ := isDirectory_iff_located.mp directory
  exact FilePath.isEmpty_text.mp (locate_eq_ok.mp located).2.1

/-- The names that are listed are those of the entries of a directory. -/
lemma list_eq_ok {names : List FileName} :
    fs.list path = .ok names ↔
      ∃ entries mode, fs.find path = .ok (.directory entries mode) ∧
        entries.map Prod.fst = names := by
  rw [list, bind_eq_ok]
  constructor
  · rintro ⟨t, found, listed⟩
    cases t with
    | directory entries mode => exact ⟨entries, mode, found, Except.ok.inj listed⟩
    | file | link | device => cases listed
  · rintro ⟨entries, mode, found, listed⟩
    exact ⟨_, found, congrArg Except.ok listed⟩

/-- Where the path of an entry leads somewhere, it starts with that of a directory. -/
lemma locate_of_below (segment : name.IsSegment) (full : base ≠ "")
    (located : fs.locate (.below base name) = .ok there) :
    ∃ between here entries left, fs.locate base = .ok here ∧ fs.entriesAt here = .ok entries ∧
      fs.Way base between here ∧ fs.Leads between here [name] left there := by
  obtain ⟨checked, -, left, way⟩ := locate_eq_ok.mp located
  obtain ⟨between, here, above, named⟩ := (way_below segment full).mp way
  obtain ⟨entries, found⟩ := named.entriesAt
  have located' := locate_eq_ok.mpr ⟨checkPath_of_below segment full checked,
    FilePath.isEmpty_text.mpr full, between, above⟩
  exact ⟨between, here, entries, left, located', found, above, named⟩

end

end UseCase.Files
