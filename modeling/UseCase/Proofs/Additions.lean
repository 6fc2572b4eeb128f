import UseCase.Proofs.Ways

/-!
# One more file

What changes when a file or a device is added, together with the directories on its way:
directories may list one more name, and everything else that was there stays what it was. So a path
that led somewhere leads there afterwards. Where a path leads afterwards, it led before, or what
lies there is new, or there is a link on its way that led nowhere and that a new directory mends.
-/

namespace UseCase

namespace FileTree

/-- What lies at the end of a way is what lies at the end of its second part, from the end of the
first. -/
lemma at?_append (front back : List FileName) (t : FileTree) :
    at? (front ++ back) t = (at? front t).bind (at? back) := by
  induction front generalizing t with
  | nil => rfl
  | cons name front ih =>
    cases t with
    | directory entries mode =>
      rw [List.cons_append, at?, at?, Option.bind_assoc]
      exact congrArg _ (funext ih)
    | file | link | device => rfl

/-- What something has become: itself, or a directory with further names. -/
inductive Grows : FileTree → FileTree → Prop
  | refl (t : FileTree) : Grows t t
  | directory {entries entries' : List (FileName × FileTree)} {names : List FileName} {mode : Nat} :
    entries'.map Prod.fst = entries.map Prod.fst ++ names →
    (∀ name ∈ names, child? name entries = none) →
    Grows (.directory entries mode) (.directory entries' mode)

/-- An entry with a new name comes last. -/
lemma setEntry_new {name : FileName} {entries : List (FileName × FileTree)} (t : FileTree)
    (absent : child? name entries = none) :
    setEntry name (some t) entries = entries ++ [(name, t)] := by
  induction entries with
  | nil => rfl
  | cons entry rest ih =>
    obtain ⟨name', t'⟩ := entry
    have differ : name' ≠ name := by
      rintro rfl
      simp [child?] at absent
    have absent' : child? name rest = none := by
      simpa [child?, differ] using absent
    rw [setEntry, if_neg differ, ih absent']
    rfl

/-- An entry that takes the place of another keeps the names as they are. -/
lemma names_setEntry {name : FileName} {entries : List (FileName × FileTree)} {old : FileTree}
    (t : FileTree) (found : child? name entries = some old) :
    (setEntry name (some t) entries).map Prod.fst = entries.map Prod.fst := by
  induction entries with
  | nil => cases found
  | cons entry rest ih =>
    obtain ⟨name', t'⟩ := entry
    rw [setEntry]
    split_ifs with same
    · rfl
    · have found' : child? name rest = some old := by
        simpa [child?, same] using found
      rw [List.map_cons, List.map_cons, ih found']

/-- A directory after one of its entries was put, over an older one or not. -/
lemma grows_setEntry (name : FileName) (t : FileTree) (entries : List (FileName × FileTree))
    (mode : Nat) :
    Grows (.directory entries mode) (.directory (setEntry name (some t) entries) mode) := by
  cases found : child? name entries with
  | some old =>
    have same := names_setEntry t found
    exact .directory (same.trans (List.append_nil _).symm) nofun
  | none =>
    have more : (setEntry name (some t) entries).map Prod.fst = entries.map Prod.fst ++ [name] := by
      rw [setEntry_new t found, List.map_append]
      rfl
    exact .directory more (List.forall_mem_singleton.mpr found)

/-- How the place at the end of `names` looks after something was put at `place`. -/
inductive Gains (put : FileTree) (place names : List FileName) :
    Option FileTree → Option FileTree → Prop
  | kept {t t' : FileTree} : t.Grows t' → Gains put place names (some t) (some t')
  | none : Gains put place names none none
  | directory {entries : List (FileName × FileTree)} {mode : Nat} : names <+: place →
    Gains put place names none (some (.directory entries mode))
  | put : names = place → Gains put place names none (some put)

section

variable {put : FileTree} {place names : List FileName}

/-- Nothing is gained where everything stays. -/
lemma Gains.refl : (t : Option FileTree) → Gains put place names t t
  | .none => .none
  | some t => .kept (.refl t)

/-- What is gained at a place is gained one directory further down as well. -/
lemma Gains.cons {old new : Option FileTree} (name : FileName)
    (gains : Gains put place names old new) :
    Gains put (name :: place) (name :: names) old new := by
  cases gains with
  | kept grows => exact .kept grows
  | none => exact .none
  | directory lead => exact .directory ((List.prefix_cons_inj name).mpr lead)
  | put here => exact .put (congrArg (name :: ·) here)

/-- What is gained in an entry is gained in the directory. -/
lemma gains_setEntry {m : Nat} {first : FileName} {entries : List (FileName × FileTree)}
    {t : FileTree}
    (gains : ∀ names, Gains put place names ((child? first entries).bind (at? names))
      (at? names t))
    (names : List FileName) :
    Gains put (first :: place) names (at? names (.directory entries m))
      (at? names (.directory (setEntry first (some t) entries) m)) := by
  cases names with
  | nil => exact .kept (grows_setEntry first t entries m)
  | cons other names =>
    rw [at?, at?, child?_setEntry]
    split_ifs with same
    · subst same
      exact (gains names).cons first
    · exact .refl _

/-- A file or device that is put where there was nothing is there afterwards, what was on its way or
anywhere else is still there, and only directories are new with it. -/
lemma gains_setAt (leaf : put.IsLeaf) {entries : List (FileName × FileTree)} {m : Nat}
    (absent : at? place (.directory entries m) = none)
    (way : ∀ above, above <+: place → ∀ t, at? above (.directory entries m) = some t →
      t.isDirectory = true) :
    let after := directory (setAt (some put) place entries) m
    at? place after = some put ∧ ∀ names,
      Gains put place names (at? names (.directory entries m)) (at? names after) := by
  -- As for a file in a directory that exists, but the way may end before the place.
  induction place generalizing entries m with
  | nil => cases absent
  | cons first place ih =>
    intro after
    cases place with
    | nil =>
      have nothing : child? first entries = none := by
        cases found : child? first entries with
        | none => rfl
        | some t => simp [at?, found] at absent
      refine ⟨by simp [after, setAt, at?, child?_setEntry], gains_setEntry fun names => ?_⟩
      rw [nothing]
      cases names with
      | nil => exact .put rfl
      | cons => cases leaf <;> exact .none
    | cons second place =>
      have more : second :: place ≠ [] := List.cons_ne_nil _ _
      cases found : child? first entries with
      | some t =>
        obtain ⟨inside, m', rfl⟩ : ∃ inside m', t = .directory inside m' := by
          have directory := way [first] (by simp) t (by simp [at?, found])
          cases t with
          | directory inside m' => exact ⟨inside, m', rfl⟩
          | file | link | device => cases directory
        rw [at?, found] at absent
        obtain ⟨here, gains⟩ := ih absent fun above lead t there =>
          way (first :: above) ((List.prefix_cons_inj first).mpr lead) t
            (by rw [at?, found]; exact there)
        have whole : after = .directory (setEntry first (some (.directory
            (setAt (some put) (second :: place) inside) m')) entries) m := by
          simp only [after, setAt_cons more, found, Option.getD_some, children, FileTree.mode]
        rw [whole]
        refine ⟨?_, gains_setEntry fun names => ?_⟩
        · rw [at?, child?_setEntry, if_pos rfl]
          exact here
        · rw [found]
          exact gains names
      | none =>
        have only : ∀ above, above <+: second :: place → ∀ t,
            at? above (.directory [] openMode) = some t → t.isDirectory = true := by
          rintro (_ | ⟨name, above⟩) - t there
          · cases there
            rfl
          · cases there
        obtain ⟨here, gains⟩ := @ih [] openMode rfl only
        have whole : after = .directory (setEntry first (some (.directory
            (setAt (some put) (second :: place) []) openMode)) entries) m := by
          simp only [after, setAt_cons more, found, Option.getD_none, children, FileTree.mode]
        rw [whole]
        refine ⟨?_, gains_setEntry fun names => ?_⟩
        · rw [at?, child?_setEntry, if_pos rfl]
          exact here
        · rw [found]
          cases names with
          | nil => exact .directory List.nil_prefix
          | cons name names => exact gains (name :: names)

end

end FileTree

namespace Files

open FileTree

/-- Files with one more file or device where there was nothing, and with the directories that were
missing on its way. -/
structure Adds (fs fs' : Files) (place : List FileName) : Prop where
  absent : fs.at? place = none
  way : ∀ above, above <+: place → ∀ t, fs.at? above = some t → t.isDirectory = true
  added : ∃ new : FileTree, new.IsLeaf ∧ fs' = fs.set place (some new)

variable {fs fs' : Files} {place names here segments there : List FileName} {links left : Nat}
  {t : FileTree} {name : FileName} {base : String} {path : FilePath}

namespace Adds

/-- The working directory stays. -/
lemma working (adds : fs.Adds fs' place) : fs'.working = fs.working := by
  obtain ⟨new, -, rfl⟩ := adds.added
  rfl

/-- Every place is as it was, or it has gained what was added or a directory on its way. -/
lemma gains (adds : fs.Adds fs' place) :
    ∃ new : FileTree, new.IsLeaf ∧ fs'.at? place = some new ∧
      ∀ names, Gains new place names (fs.at? names) (fs'.at? names) := by
  obtain ⟨new, leaf, rfl⟩ := adds.added
  exact ⟨new, leaf, gains_setAt leaf adds.absent adds.way⟩

/-- What was there is still there. -/
lemma grows (adds : fs.Adds fs' place) (there : fs.at? names = some t) :
    ∃ t', fs'.at? names = some t' ∧ t.Grows t' := by
  obtain ⟨new, -, -, gains⟩ := adds.gains
  have gained := gains names
  rw [there] at gained
  generalize fs'.at? names = found at gained
  cases gained with
  | kept grows => exact ⟨_, rfl, grows⟩

/-- A file or device that was there is still the same. -/
lemma leaf (adds : fs.Adds fs' place) (leaf : t.IsLeaf) (there : fs.at? names = some t) :
    fs'.at? names = some t := by
  obtain ⟨t', there', grows⟩ := adds.grows there
  cases grows with
  | refl => exact there'
  | directory => cases leaf

/-- What is new is a directory on the way, or what was added. -/
lemma fresh (adds : fs.Adds fs' place) (absent : fs.at? names = none)
    (there : fs'.at? names = some t) :
    (names <+: place ∧ ∃ entries mode, t = .directory entries mode) ∨
      names = place ∧ t.IsLeaf := by
  obtain ⟨new, leaf, -, gains⟩ := adds.gains
  have gained := gains names
  rw [absent, there] at gained
  cases gained with
  | directory lead => exact .inl ⟨lead, _, _, rfl⟩
  | put here => exact .inr ⟨here, leaf⟩

/-- What was added is a file or device at its place, and all other places are kept. -/
lemma filled (adds : fs.Adds fs' place) : Filled fs fs' place where
  kept names t there := by
    obtain ⟨t', there', grows⟩ := adds.grows there
    refine ⟨t', there', ?_⟩
    cases grows with
    | refl => exact .refl t
    | directory => exact .directory
  filled := by
    obtain ⟨new, leaf, put, -⟩ := adds.gains
    exact ⟨new, put, leaf⟩

/-- A directory that was there before is one afterwards, and the other way round. -/
lemma entriesAt (adds : fs.Adds fs' place) (old : fs.at? here = some t) :
    (∃ entries, fs'.entriesAt here = .ok entries) ↔ ∃ entries, fs.entriesAt here = .ok entries := by
  obtain ⟨t', there', grows⟩ := adds.grows old
  constructor
  · rintro ⟨entries, found⟩
    obtain ⟨mode, directory⟩ := entriesAt_eq_ok.mp found
    cases there'.symm.trans directory
    cases grows with
    | refl => exact ⟨_, entriesAt_eq_ok.mpr ⟨_, old⟩⟩
    | directory => exact ⟨_, entriesAt_eq_ok.mpr ⟨_, old⟩⟩
  · rintro ⟨entries, found⟩
    exact adds.filled.entriesAt found

end Adds

/-! ## What leads there afterwards -/

/-- A way that leads somewhere leads there afterwards. -/
lemma Filled.leads (after : Filled fs fs' place) (leads : fs.Leads links here segments left there) :
    fs'.Leads links here segments left there := by
  induction leads with
  | here => exact .here
  | place step _ ih => exact .place (after.step step (by simp)) ih
  | link step _ ih => exact .link (after.step step (by simp)) ih

namespace Adds

/-- Paths start where they started. -/
lemma start (adds : fs.Adds fs' place) (path : FilePath) : fs'.start path = fs.start path :=
  congrArg (startOf · path) adds.working

/-- The way of a path is the same afterwards. -/
lemma wayOf (adds : fs.Adds fs' place) (way : fs.Way path left there) :
    fs'.Way path left there := by
  rw [Way, adds.start]
  exact adds.filled.leads way

/-- Where a path leads, it leads afterwards. -/
lemma locate (adds : fs.Adds fs' place) (located : fs.locate path = .ok there) :
    fs'.locate path = .ok there := by
  obtain ⟨checked, full, left, way⟩ := locate_eq_ok.mp located
  exact locate_eq_ok.mpr ⟨checked, full, left, adds.wayOf way⟩

/-- A file or device is found afterwards under the paths under which it was found. -/
lemma find_leaf (adds : fs.Adds fs' place) (leaf : t.IsLeaf) (found : fs.find path = .ok t) :
    fs'.find path = .ok t := by
  obtain ⟨there, located, last⟩ := find_eq_ok.mp found
  exact find_eq_ok.mpr ⟨there, adds.locate located, adds.leaf leaf last⟩

/-- Paths of files and devices still lead to one. -/
lemma hasLeaf (adds : fs.Adds fs' place) (leaf : fs.HasLeaf path) : fs'.HasLeaf path := by
  obtain ⟨t, found, leaf⟩ := leaf
  exact ⟨t, adds.find_leaf leaf found, leaf⟩

/-- Paths of files still lead to a file. -/
lemma isFile (adds : fs.Adds fs' place) (file : fs.isFile path = true) :
    fs'.isFile path = true := by
  obtain ⟨content, mode, found⟩ := isFile_iff.mp file
  exact isFile_iff.mpr ⟨content, mode, adds.find_leaf .file found⟩

/-- Paths of directories still lead to a directory. -/
lemma isDirectory (adds : fs.Adds fs' place) (directory : fs.isDirectory path = true) :
    fs'.isDirectory path = true := by
  obtain ⟨there, entries, mode, located, last⟩ := isDirectory_iff_located.mp directory
  obtain ⟨t', last', grows⟩ := adds.grows last
  cases grows with
  | refl => exact isDirectory_iff_located.mpr ⟨there, _, _, adds.locate located, last'⟩
  | directory => exact isDirectory_iff_located.mpr ⟨there, _, _, adds.locate located, last'⟩

end Adds

/-! ## What led there before -/

/-- No link that led nowhere comes to lead to something that was there before. -/
def Unmended (fs fs' : Files) : Prop :=
  ∀ above name path links left there t, fs.at? (above ++ [name]) = some (.link path) →
    fs'.Leads links (startOf above path) path.segments left there → fs.at? there = some t →
    fs.Leads links (startOf above path) path.segments left there

/-- A link was there before. -/
lemma Adds.link (adds : fs.Adds fs' place) (there : fs'.at? names = some (.link path)) :
    fs.at? names = some (.link path) := by
  cases old : fs.at? names with
  | none =>
    rcases adds.fresh old there with ⟨-, entries, mode, same⟩ | ⟨-, leaf⟩
    · cases same
    · cases leaf
  | some t =>
    obtain ⟨t', there', grows⟩ := adds.grows old
    cases there'.symm.trans there
    cases grows with
    | refl => rfl

/-- A segment that leads to a place leads to the entry with its name. -/
lemma eq_of_ofEntry_place {next : List FileName} {found : Option FileTree}
    (lead : Lead.place there = .ofEntry next found) : there = next := by
  rcases found with _ | (_ | _ | _ | _)
  · cases lead
  · exact Lead.place.inj lead
  · exact Lead.place.inj lead
  · cases lead
  · exact Lead.place.inj lead

/-- A segment that leads to a link names an entry that is one. -/
lemma at?_of_step_link (step : fs.step here name = .ok (.link path)) :
    fs.at? (here ++ [name]) = some (.link path) := by
  obtain ⟨entries, found⟩ := entriesAt_of_step step
  rw [step_eq found] at step
  split_ifs at step
  · cases step
  · cases step
  · generalize fs.at? (here ++ [name]) = last at step
    rcases last with _ | (_ | _ | path' | _)
    · cases step
    · cases step
    · cases step
    · cases step
      rfl
    · cases step

namespace Adds

/-- A segment leads where it led before if there was an entry for it. -/
lemma step_back (adds : fs.Adds fs' place) {entries : List (FileName × FileTree)}
    (found : fs.entriesAt here = .ok entries)
    (known : name.isIdle = false → name ≠ ".." → ∃ t, fs.at? (here ++ [name]) = some t) :
    fs.step here name = fs'.step here name := by
  obtain ⟨entries', found'⟩ := adds.filled.entriesAt found
  rw [step_eq found, step_eq found']
  split_ifs with idle up long
  · rfl
  · rfl
  · rfl
  · obtain ⟨t, old⟩ := known (Bool.eq_false_iff.mpr idle) up
    obtain ⟨t', there, grows⟩ := adds.grows old
    rw [old, there]
    cases grows <;> rfl

/-- A segment that leads to something old from a directory that is old as well led there before. -/
lemma leads_back (adds : fs.Adds fs' place) (unmended : fs.Unmended fs')
    (old : fs.at? here = some t) {t' : FileTree} (last : fs.at? there = some t')
    (leads : fs'.Leads links here [name] left there) : fs.Leads links here [name] left there := by
  obtain ⟨entries, found⟩ := (adds.entriesAt old).mp leads.entriesAt
  cases leads with
  | place step rest =>
    cases rest
    have same := adds.step_back found fun busy down => by
      obtain ⟨-, -, lead⟩ := (step_named busy down).mp step
      rw [← eq_of_ofEntry_place lead]
      exact ⟨t', last⟩
    exact .place (same.trans step) .here
  | link step rest =>
    have linked := adds.link (at?_of_step_link step)
    have same := adds.step_back found fun _ _ => ⟨_, linked⟩
    rw [List.append_nil] at rest
    have before := unmended here name _ _ _ _ _ linked rest last
    refine .link (same.trans step) ?_
    rwa [List.append_nil]

/-- A name in a directory that was there before led to something old before. -/
lemma locate_back (adds : fs.Adds fs' place) (unmended : fs.Unmended fs')
    (segment : name.IsSegment) (directory : fs.isDirectory base = true)
    (last : fs.at? there = some t) (located : fs'.locate (.below base name) = .ok there) :
    fs.locate (.below base name) = .ok there := by
  obtain ⟨here, entries, mode, above, old⟩ := isDirectory_iff_located.mp directory
  obtain ⟨-, full, between, way⟩ := locate_eq_ok.mp above
  obtain ⟨checked, full', left, way'⟩ := locate_eq_ok.mp located
  obtain ⟨between', here', above', leads⟩ :=
    (way_below segment (FilePath.isEmpty_text.mp full)).mp way'
  obtain ⟨rfl, rfl⟩ := (adds.wayOf way).unique above'
  have before := adds.leads_back unmended old last leads
  exact locate_eq_ok.mpr ⟨checked, full', left,
    (way_below segment (FilePath.isEmpty_text.mp full)).mpr ⟨_, _, way, before⟩⟩

/-- A name in a new directory leads to something new. -/
lemma leads_new (adds : fs.Adds fs' place) (proper : name.IsName)
    (new : fs.at? here = none) (leads : fs'.Leads links here [name] left there) :
    fs.at? there = none := by
  have absent : fs.at? (here ++ [name]) = none := by
    rw [at?_concat, new]
    rfl
  cases leads with
  | place step rest =>
    cases rest
    obtain ⟨-, -, lead⟩ := (step_named proper.busy proper.down).mp step
    rwa [eq_of_ofEntry_place lead]
  | link step _ => cases absent.symm.trans (adds.link (at?_of_step_link step))

/-- The same for a name in a directory that is in the directory. -/
lemma locate_back_below {name name' : String} (adds : fs.Adds fs' place)
    (unmended : fs.Unmended fs') (segment : Path.IsSegment name) (proper : FileName.IsName name')
    (directory : fs.isDirectory base = true) (last : fs.at? there = some t)
    (located : fs'.locate (Path.join (Path.join base name) name') = .ok there) :
    fs.isDirectory (Path.join base name) = true ∧
      fs.locate (Path.join (Path.join base name) name') = .ok there := by
  have full := Path.join_ne_empty segment (ne_empty_of_isDirectory directory)
  obtain ⟨between, mid, entries', left, above, inside, -, leads⟩ :=
    locate_of_below proper.segment full located
  -- From a new directory the name would lead to something new.
  cases old : fs.at? mid with
  | none => cases (adds.leads_new proper old leads).symm.trans last
  | some t' =>
    obtain ⟨entries, found⟩ := (adds.entriesAt old).mp ⟨entries', inside⟩
    obtain ⟨mode, here⟩ := entriesAt_eq_ok.mp found
    have outer : FileName.IsSegment name := segment
    have before := adds.locate_back unmended outer directory old above
    have directory' : fs.isDirectory (Path.join base name) = true :=
      isDirectory_iff_located.mpr ⟨mid, entries, mode, before, here⟩
    have inner := adds.locate_back unmended proper.segment directory' last located
    exact ⟨directory', inner⟩

end Adds

/-! ## Links that stay broken -/

/-- What is above something is there. -/
lemma at?_of_prefix (lead : here <+: names) (there : fs.at? names = some t) :
    ∃ t', fs.at? here = some t' := by
  obtain ⟨rest, rfl⟩ := lead
  rw [Files.at?, FileTree.at?_append] at there
  obtain ⟨t', above, -⟩ := Option.bind_eq_some_iff.mp there
  exact ⟨t', above⟩

/-- Without new directories, segments that lead to something old led there before. -/
lemma Adds.leads_before (adds : fs.Adds fs' place)
    (only : ∀ names entries mode, fs.at? names = none →
      fs'.at? names ≠ some (.directory entries mode))
    (leads : fs'.Leads links here segments left there) (last : fs.at? there = some t)
    (old : ∃ t, fs.at? here = some t) : fs.Leads links here segments left there := by
  induction leads with
  | here => exact .here
  | @place _ _ here next rest there segment step rest' ih =>
    -- The way does not go on from what is new: that is the file.
    have next_old : ∃ t, fs.at? next = some t := by
      cases new : fs.at? next with
      | some t => exact ⟨t, rfl⟩
      | none =>
        cases rest with
        | nil =>
          cases rest'
          cases new.symm.trans last
        | cons =>
          obtain ⟨entries, found⟩ := rest'.entriesAt
          obtain ⟨mode, directory⟩ := entriesAt_eq_ok.mp found
          exact absurd directory (only next entries mode new)
    obtain ⟨t, old⟩ := old
    obtain ⟨entries, found⟩ := (adds.entriesAt old).mp (entriesAt_of_step step)
    have same := adds.step_back found fun busy down => by
      obtain ⟨-, -, lead⟩ := (step_named busy down).mp step
      rwa [← eq_of_ofEntry_place lead]
    exact .place (same.trans step) (ih last next_old)
  | @link _ _ here rest there segment path step _ ih =>
    obtain ⟨t, old⟩ := old
    obtain ⟨entries, found⟩ := (adds.entriesAt old).mp (entriesAt_of_step step)
    have linked := adds.link (at?_of_step_link step)
    have same := adds.step_back found fun _ _ => ⟨_, linked⟩
    refine .link (same.trans step) (ih last ?_)
    rw [startOf]
    split_ifs
    · exact ⟨_, rfl⟩
    · exact ⟨t, old⟩

/-- A file or device is added to a directory without more. -/
lemma adds_to_directory {entries : List (FileName × FileTree)} {mode : Nat} (leaf : t.IsLeaf)
    (directory : fs.at? names = some (.directory entries mode))
    (absent : fs.at? (names ++ [name]) = none) :
    fs.Adds (fs.set (names ++ [name]) (some t)) (names ++ [name]) where
  absent := absent
  added := ⟨t, leaf, rfl⟩
  way above lead t there := by
    rcases List.prefix_concat_iff.mp lead with rfl | ⟨rest, rfl⟩
    · cases absent.symm.trans there
    · rw [Files.at?, FileTree.at?_append] at directory
      rw [Files.at?] at there
      rw [there] at directory
      obtain ⟨inside, mode'', rfl⟩ := directory_of_below directory
      rfl

/-- A file in a directory that was there before mends no link. -/
lemma Adds.unmended (adds : fs.Adds fs' (names ++ [name])) (directory : fs.at? names = some t) :
    fs.Unmended fs' := by
  have only (new : List FileName) (entries : List (FileName × FileTree)) (mode : Nat)
      (absent : fs.at? new = none) : fs'.at? new ≠ some (.directory entries mode) := by
    intro there
    rcases adds.fresh absent there with ⟨lead, -⟩ | ⟨-, leaf⟩
    · rcases List.prefix_concat_iff.mp lead with rfl | above
      · obtain ⟨new, leaf, put, -⟩ := adds.gains
        cases put.symm.trans there
        cases leaf
      · obtain ⟨t', old⟩ := at?_of_prefix above directory
        cases absent.symm.trans old
    · cases leaf
  intro above name path links left there t linked leads last
  refine adds.leads_before only leads last ?_
  rw [startOf]
  split_ifs
  · exact ⟨_, rfl⟩
  · exact at?_of_prefix (List.prefix_append above [name]) linked

end Files

end UseCase
