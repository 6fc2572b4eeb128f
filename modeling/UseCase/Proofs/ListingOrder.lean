import UseCase.Proofs.Confinement

/-!
# The order of entries

Directories list their entries in no particular order. What a catalog opens and lists does not
depend on it: a path leads to the same place in every order, and the card files are sorted, which is
the same for all arrangements of them.
-/

namespace UseCase

/-! ## The order of names -/

namespace Text

/-- An array of bytes can be told from its list. -/
lemma arrayOf_bytesOf (data : ByteArray) : arrayOf (bytesOf data) = data := by
  have back : (fun b : UInt8 => (Char.ofNat b.toNat).toNat.toUInt8) = id := by
    funext b
    have valid : b.toNat.isValidChar := .inl (by have := b.toNat_lt; omega)
    have whole : Char.ofNat b.toNat = .ofNatAux b.toNat valid := dif_pos valid
    rw [whole]
    exact UInt8.ofNat_toNat
  rw [arrayOf, bytesOf, List.map_map]
  change ByteArray.mk (List.map (fun b : UInt8 => (Char.ofNat b.toNat).toNat.toUInt8) _).toArray = _
  rw [back, List.map_id]

/-- The bytes of a text are that text. -/
lemma ofBytes?_bytes (s : String) : ofBytes? (bytes s) = some s := by
  rw [ofBytes?, bytes, arrayOf_bytesOf]
  exact dif_pos s.isValidUTF8

end Text

namespace FileName

/-- A name is told by its bytes. -/
lemma ofBytes_bytes (name : FileName) : ofBytes name.bytes = name := by
  rw [ofBytes]
  split
  · rename_i text isText
    cases name with
    | text name => rw [Option.some.inj ((Text.ofBytes?_bytes name).symm.trans isText)]
    | foreign name => cases name.isForeign.symm.trans isText
  · rename_i isForeign
    cases name with
    | text name => cases (Text.ofBytes?_bytes name).symm.trans isForeign
    | foreign name => rfl

/-- Names of files are ordered by their bytes. -/
lemma isOrder_before : Text.IsOrder before := by
  refine Text.isOrder_charBefore.lexicographic.comap fun name other same => ?_
  rw [← ofBytes_bytes name, same, ofBytes_bytes]

end FileName

/-! ## Sorting -/

namespace Catalog

/-- A card file is told by the names that lead to it. -/
lemma Spot.names_injective (spot other : Spot) (same : spot.names = other.names) :
    spot = other := by
  cases spot <;> cases other <;> cases same <;> rfl

/-- Card files are ordered by the names that lead to them. -/
lemma Spot.isOrder_before : Text.IsOrder before :=
  FileName.isOrder_before.lexicographic.comap names_injective

/-- No card file comes after a greater one. -/
def Ascending : List Spot → Prop :=
  List.Pairwise fun spot other => other.before spot = false

/-- A card file that is put in its place leaves the others ascending. -/
lemma place_ascending {spot : Spot} {spots : List Spot} (ascending : Ascending spots) :
    Ascending (place spot spots) := by
  have order := Spot.isOrder_before
  induction spots with
  | nil => exact List.pairwise_singleton _ _
  | cons other rest ih =>
    obtain ⟨least, rest_ascending⟩ := List.pairwise_cons.mp ascending
    rw [place]
    split_ifs with before
    · refine List.pairwise_cons.mpr ⟨fun third member => ?_, ascending⟩
      rcases List.mem_cons.mp member with rfl | member
      · exact order.asymm before
      · rw [Bool.eq_false_iff]
        intro early
        exact Bool.false_ne_true ((least third member).symm.trans (order.trans early before))
    · refine List.pairwise_cons.mpr ⟨fun third member => ?_, ih rest_ascending⟩
      rcases List.mem_cons.mp ((place_perm spot rest).mem_iff.mp member) with rfl | member
      · exact Bool.eq_false_iff.mpr before
      · exact least third member

/-- Sorted card files are ascending. -/
lemma sort_ascending (spots : List Spot) : Ascending (sort spots) := by
  induction spots with
  | nil => exact List.Pairwise.nil
  | cons spot rest ih => exact place_ascending ih

/-- The same card files in ascending order are the same list. -/
lemma eq_of_ascending {spots spots' : List Spot} (same : spots.Perm spots')
    (ascending : Ascending spots) (ascending' : Ascending spots') : spots = spots' := by
  refine same.eq_of_pairwise (fun spot other _ _ after before => ?_) ascending ascending'
  by_contra differ
  rcases Spot.isOrder_before.total differ with less | less
  · exact Bool.false_ne_true (before.symm.trans less)
  · exact Bool.false_ne_true (after.symm.trans less)

/-- All arrangements are sorted in the same way. -/
lemma sort_eq_of_perm {spots spots' : List Spot} (same : spots.Perm spots') :
    sort spots = sort spots' :=
  eq_of_ascending ((sort_perm spots).trans (same.trans (sort_perm spots').symm))
    (sort_ascending spots) (sort_ascending spots')

/-- What is left out may be left out before. -/
lemma filter_sort (p : Spot → Bool) (spots : List Spot) :
    (sort spots).filter p = sort (spots.filter p) :=
  eq_of_ascending (((sort_perm spots).filter p).trans (sort_perm (spots.filter p)).symm)
    ((sort_ascending spots).filter p) (sort_ascending _)

end Catalog

/-! ## Arrangements of entries -/

namespace FileTree

/-- The entries of directories, which have different names, stand in another order. -/
inductive Reordered : FileTree → FileTree → Prop
  | refl (t : FileTree) : Reordered t t
  | directory {entries entries' : List (FileName × FileTree)} {mode : Nat} :
    (entries.map Prod.fst).Nodup → entries.Perm entries' →
    Reordered (.directory entries mode) (.directory entries' mode)
  | entry {front back : List (FileName × FileTree)} {name : FileName} {t t' : FileTree}
    {mode : Nat} :
    Reordered t t' → Reordered (.directory (front ++ (name, t) :: back) mode)
      (.directory (front ++ (name, t') :: back) mode)
  | trans {t t' t'' : FileTree} : Reordered t t' → Reordered t' t'' → Reordered t t''

/-- The same file or link, or directories of the same names. -/
inductive Shuffled : FileTree → FileTree → Prop
  | refl (t : FileTree) : Shuffled t t
  | directory {entries entries' : List (FileName × FileTree)} {mode : Nat} :
    (entries.map Prod.fst).Perm (entries'.map Prod.fst) →
    Shuffled (.directory entries mode) (.directory entries' mode)

/-- A directory that was shuffled twice was shuffled. -/
lemma Shuffled.trans {t t' t'' : FileTree} (first : t.Shuffled t') (second : t'.Shuffled t'') :
    t.Shuffled t'' := by
  cases first with
  | refl => exact second
  | directory same =>
    cases second with
    | refl => exact .directory same
    | directory same' => exact .directory (same.trans same')

/-- Where names do not repeat, every entry is found under its name. -/
lemma child?_eq_some {entries : List (FileName × FileTree)} {name : FileName} {t : FileTree}
    (distinct : (entries.map Prod.fst).Nodup) :
    child? name entries = some t ↔ (name, t) ∈ entries := by
  refine ⟨Files.child?_mem, fun member => ?_⟩
  induction entries with
  | nil => cases member
  | cons entry rest ih =>
    obtain ⟨name', t'⟩ := entry
    obtain ⟨alone, distinct⟩ := List.nodup_cons.mp distinct
    rcases List.mem_cons.mp member with same | member
    · cases same
      simp [child?]
    · have differ : name' ≠ name := by
        rintro rfl
        exact alone (List.mem_map.mpr ⟨_, member, rfl⟩)
      have further : child? name ((name', t') :: rest) = child? name rest := by
        simp [child?, differ]
      rw [further]
      exact ih distinct member

/-- In whatever order the entries stand, a name has the same one. -/
lemma child?_perm {entries entries' : List (FileName × FileTree)} (name : FileName)
    (distinct : (entries.map Prod.fst).Nodup) (same : entries.Perm entries') :
    child? name entries = child? name entries' := by
  have distinct' := (same.map Prod.fst).nodup_iff.mp distinct
  ext t
  rw [child?_eq_some distinct, child?_eq_some distinct', same.mem_iff]

/-- An entry in front hides those behind it. -/
lemma child?_append (name : FileName) (front back : List (FileName × FileTree)) :
    child? name (front ++ back) = (child? name front).or (child? name back) := by
  rw [child?, child?, child?, List.find?_append]
  cases front.find? fun entry => entry.1 == name <;> rfl

/-- What was not touched is not shuffled. -/
lemma rel_refl (found : Option FileTree) : Option.Rel Shuffled found found := by
  cases found with
  | none => exact .none
  | some t => exact .some (.refl t)

/-- What was shuffled twice was shuffled. -/
lemma rel_trans {found found' found'' : Option FileTree} (first : Option.Rel Shuffled found found')
    (second : Option.Rel Shuffled found' found'') : Option.Rel Shuffled found found'' := by
  cases first with
  | none => exact second
  | some shuffled =>
    cases second with
    | some shuffled' => exact .some (shuffled.trans shuffled')

/-- The same lies at every place. -/
lemma Reordered.at? {t t' : FileTree} (reordered : t.Reordered t') (names : List FileName) :
    Option.Rel Shuffled (t.at? names) (t'.at? names) := by
  induction reordered generalizing names with
  | refl t => exact rel_refl _
  | directory distinct same =>
    cases names with
    | nil => exact .some (.directory (same.map Prod.fst))
    | cons name names =>
      rw [FileTree.at?, FileTree.at?, child?_perm name distinct same]
      exact rel_refl _
  | @entry front back name t t' mode _ ih =>
    cases names with
    | nil =>
      refine .some (.directory ?_)
      rw [List.map_append, List.map_append]
      exact .refl _
    | cons other names =>
      rw [FileTree.at?, FileTree.at?, child?_append, child?_append]
      -- An entry in front of it hides the one that was rearranged.
      cases child? other front with
      | some found => exact rel_refl _
      | none =>
        by_cases here : name = other
        · have first (t : FileTree) : child? other ((name, t) :: back) = some t := by
            simp [child?, here]
          rw [first, first]
          exact ih names
        · have first (t : FileTree) : child? other ((name, t) :: back) = child? other back := by
            simp [child?, here]
          rw [first, first]
          exact rel_refl _
  | trans _ _ ih ih' => exact rel_trans (ih names) (ih' names)

end FileTree

namespace Files

open FileTree

/-- The same files, where the entries of directories stand in another order. -/
structure Reordered (fs fs' : Files) : Prop where
  working : fs'.working = fs.working
  entries : (FileTree.directory fs.entries openMode).Reordered (.directory fs'.entries openMode)

variable {fs fs' : Files}

/-- At every place lies the same file, or a directory with the same names. -/
lemma Reordered.at? (reordered : fs.Reordered fs') (names : List FileName) :
    Option.Rel Shuffled (fs.at? names) (fs'.at? names) :=
  reordered.entries.at? names

/-- Directories are directories in both, and the same places fail in the same way. -/
lemma Reordered.entriesAt (reordered : fs.Reordered fs') (here : List FileName) :
    (fs'.entriesAt here).map (fun _ => ()) = (fs.entriesAt here).map fun _ => () := by
  have directory := reordered.at? here
  rw [Files.entriesAt, Files.entriesAt]
  generalize fs.at? here = found, fs'.at? here = found' at directory
  cases directory with
  | none => rfl
  | some shuffled =>
    cases shuffled with
    | refl => rfl
    | directory => rfl

/-- Every segment leads where it led. -/
lemma Reordered.step (reordered : fs.Reordered fs') (here : List FileName) (segment : FileName) :
    fs'.step here segment = fs.step here segment := by
  have lead : Lead.ofEntry (here ++ [segment]) (fs'.at? (here ++ [segment])) =
      .ofEntry (here ++ [segment]) (fs.at? (here ++ [segment])) := by
    have next := reordered.at? (here ++ [segment])
    generalize fs.at? (here ++ [segment]) = found, fs'.at? (here ++ [segment]) = found' at next
    cases next with
    | none => rfl
    | some shuffled => cases shuffled <;> rfl
  have same := reordered.entriesAt here
  cases found : fs.entriesAt here with
  | error cause =>
    cases found' : fs'.entriesAt here with
    | error cause' =>
      rw [found, found'] at same
      rw [Files.step, Files.step, found, found']
      exact congrArg Except.error (Except.error.inj same)
    | ok entries' =>
      rw [found, found'] at same
      cases same
  | ok entries =>
    cases found' : fs'.entriesAt here with
    | error cause' =>
      rw [found, found'] at same
      cases same
    | ok entries' => rw [step_eq found, step_eq found', lead]

/-- A path is followed in the same way if every step is the same. -/
lemma followWithin_congr (same : ∀ here segment, fs'.step here segment = fs.step here segment)
    (links : Nat) : fs'.followWithin false links = fs.followWithin false links := by
  have walks (along : Walk) : fs'.walk false along = fs.walk false along := by
    funext here segments
    induction segments generalizing here with
    | nil => rfl
    | cons segment rest ih =>
      rw [walk, walk, same]
      simp only [ih]
      rfl
  induction links with
  | zero => exact walks _
  | succ links ih => rw [followWithin, followWithin, ih, walks]

/-- Every path leads where it led. -/
lemma Reordered.locate (reordered : fs.Reordered fs') (path : FilePath) :
    fs'.locate path = fs.locate path := by
  have start : fs'.start path = fs.start path := congrArg (startOf · path) reordered.working
  rw [Files.locate, Files.locate, follow, follow, followWithin_congr reordered.step, start]

/-- What a path leads to is the same, up to the order of entries. -/
lemma Reordered.find (reordered : fs.Reordered fs') (path : FilePath) :
    (∃ cause, fs.find path = .error cause ∧ fs'.find path = .error cause) ∨
      ∃ t t', fs.find path = .ok t ∧ fs'.find path = .ok t' ∧ t.Shuffled t' := by
  rw [Files.find, Files.find, reordered.locate]
  cases fs.locate path with
  | error cause => exact .inl ⟨cause, rfl, rfl⟩
  | ok there =>
    have found := reordered.at? there
    rw [ok_bind, ok_bind]
    generalize fs.at? there = found, fs'.at? there = found' at found
    cases found with
    | none => exact .inl ⟨_, rfl, rfl⟩
    | some shuffled => exact .inr ⟨_, _, rfl, rfl, shuffled⟩

/-- The same paths lead to files. -/
lemma Reordered.isFile (reordered : fs.Reordered fs') (path : FilePath) :
    fs'.isFile path = fs.isFile path := by
  rw [Files.isFile, Files.isFile]
  rcases reordered.find path with ⟨cause, found, found'⟩ | ⟨t, t', found, found', shuffled⟩
  · rw [found, found']
  · rw [found, found']
    cases shuffled <;> rfl

/-- The same paths lead to directories. -/
lemma Reordered.isDirectory (reordered : fs.Reordered fs') (path : FilePath) :
    fs'.isDirectory path = fs.isDirectory path := by
  rw [Files.isDirectory, Files.isDirectory]
  rcases reordered.find path with ⟨cause, found, found'⟩ | ⟨t, t', found, found', shuffled⟩
  · rw [found, found']
  · rw [found, found']
    cases shuffled <;> rfl

/-- Every path reads as it did. -/
lemma Reordered.read (reordered : fs.Reordered fs') (path : FilePath) :
    fs'.read path = fs.read path := by
  rw [Files.read, Files.read]
  rcases reordered.find path with ⟨cause, found, found'⟩ | ⟨t, t', found, found', shuffled⟩
  · rw [found, found']
  · rw [found, found']
    cases shuffled <;> rfl

/-- The same names are listed, in some order. -/
lemma Reordered.list (reordered : fs.Reordered fs') (path : FilePath) :
    (∃ cause, fs.list path = .error cause ∧ fs'.list path = .error cause) ∨
      ∃ names names', fs.list path = .ok names ∧ fs'.list path = .ok names' ∧
        names.Perm names' := by
  rw [Files.list, Files.list]
  rcases reordered.find path with ⟨cause, found, found'⟩ | ⟨t, t', found, found', shuffled⟩
  · rw [found, found']
    exact .inl ⟨cause, rfl, rfl⟩
  · rw [found, found']
    cases shuffled with
    | directory same => exact .inr ⟨_, _, rfl, rfl, same⟩
    | refl =>
      cases t with
      | file | link | device => exact .inl ⟨_, rfl, rfl⟩
      | directory => exact .inr ⟨_, _, rfl, rfl, .refl _⟩

end Files

/-! ## Catalogs -/

namespace Catalog

variable {c : Catalog} {fs fs' : Files}

/-- The card files are the same, and in the same order. -/
lemma cardFiles_reordered (reordered : fs.Reordered fs') : c.cardFiles fs' = c.cardFiles fs := by
  have same : c.cardFileAt? fs' = c.cardFileAt? fs := by
    funext name
    unfold cardFileAt?
    simp only [reordered.isDirectory, reordered.isFile]
  rw [cardFiles, cardFiles, same]
  obtain ⟨cause, listed, listed'⟩ | ⟨names, names', listed, listed', perm⟩ := reordered.list c.root
  · rw [listed, listed']
  · rw [listed, listed']
    have sorted := sort_eq_of_perm (perm.filterMap (c.cardFileAt? fs))
    exact congrArg (fun spots => Except.ok (spots.map c.pathAt)) sorted.symm

/-- The same card is read from every path. -/
lemma readCard_reordered (reordered : fs.Reordered fs') (path : FilePath) :
    readCard fs' path = readCard fs path := by
  rw [readCard, readCard, reordered.read]

/-- What is opened does not depend on the order of entries. -/
lemma load_reordered (reordered : fs.Reordered fs') (spec : CardName) :
    c.load fs' spec = c.load fs spec := by
  have files : c.fileOf? fs' = c.fileOf? fs := by
    funext name
    exact fileOf?_congr (reordered.isFile _) fun _ => reordered.isFile _
  have searched : search fs' spec = search fs spec := by
    funext paths
    exact search_congr fun path _ => readCard_reordered reordered path
  refine load_congr (by rw [files]) (fun path _ => readCard_reordered reordered path) ?_
  rw [cardFiles_reordered reordered, searched]

/-- What is listed does not depend on the order of entries. -/
lemma cards_reordered (reordered : fs.Reordered fs') : c.cards fs' = c.cards fs := by
  rw [cards, cards, cardFiles_reordered reordered]
  simp only [readCard_reordered reordered]

end Catalog

end UseCase
