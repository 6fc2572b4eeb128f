import Mathlib.Data.List.Basic
import UseCase.Proofs.Ways

/-!
# Card files of a catalog

Looking through the directory of a catalog finds the files `NAME.toml` of its entries that are no
directories and the files `NAME/NAME.toml` of those that are (`Lists`). The name of such a file
gives back the `NAME`, if it is a text. What is read from a path comes from a file or a device there.
-/

namespace UseCase

/-! ## Names of entries -/

/-- All entries of a directory and below it have names that entries can have. -/
inductive FileTree.Named : FileTree → Prop
  | file {content : Content} {mode : Nat} : Named (.file content mode)
  | directory {entries : List (FileName × FileTree)} {mode : Nat} :
    (∀ entry ∈ entries, entry.1.IsName) → (∀ entry ∈ entries, Named entry.2) →
      Named (.directory entries mode)
  | link {path : FilePath} : Named (.link path)
  | device {device : Device} {mode : Nat} : Named (.device device mode)

/-- All files have names that entries of directories can have. -/
def Files.Named (fs : Files) : Prop :=
  (FileTree.directory fs.entries FileTree.openMode).Named

/-- What lies anywhere below proper names has proper names. -/
lemma FileTree.Named.at? {t t' : FileTree} (named : t.Named) {names : List FileName}
    (found : t.at? names = some t') : t'.Named := by
  induction names generalizing t with
  | nil =>
    cases found
    exact named
  | cons name names ih =>
    cases named with
    | file | link | device => cases found
    | directory _ below =>
      obtain ⟨t, entry, found⟩ := Option.bind_eq_some_iff.mp found
      exact ih (below _ (Files.child?_mem entry)) found

/-- What a directory lists are names. -/
lemma Files.Named.isName {fs : Files} (named : fs.Named) {path : FilePath} {name : FileName}
    {names : List FileName} (listed : fs.list path = .ok names) (member : name ∈ names) :
    name.IsName := by
  obtain ⟨entries, mode, found, rfl⟩ := list_eq_ok.mp listed
  obtain ⟨there, -, found⟩ := find_eq_ok.mp found
  obtain ⟨entry, inside, rfl⟩ := List.mem_map.mp member
  cases FileTree.Named.at? named found with
  | directory proper _ => exact proper entry inside

namespace Catalog

variable {c : Catalog} {fs : Files} {stem name : String} {path : FilePath}
  {names : List FileName} {paths : List FilePath} {card : Card}

/-! ## Names of card files -/

/-- The name of a card file is a stem, a dot and the extension. -/
lemma cardFileName_eq (stem : String) : cardFileName stem = stem ++ "." ++ "toml" := by
  rw [cardFileName, String.append_assoc]
  rfl

/-- The name of a card file is one segment exactly if its stem is. -/
lemma isSegment_cardFileName : Path.IsSegment (cardFileName stem) ↔ Path.IsSegment stem := by
  have extension : '/' ∉ ".toml".toList := by decide
  rw [Path.IsSegment, Path.IsSegment, cardFileName, String.toList_append, List.mem_append, not_or]
  exact and_iff_left extension

/-- The name of a card file is a proper name, whatever segment its stem is. -/
lemma isName_cardFileName (segment : Path.IsSegment stem) :
    FileName.IsName (cardFileName stem) := by
  have long : 5 ≤ (cardFileName stem).length := by
    rw [cardFileName, String.length_append]
    exact Nat.le_add_left _ _
  have other {text : String} (short : text.length < 5) : cardFileName stem ≠ text := by
    rintro rfl
    omega
  have down : cardFileName stem ≠ ".." := other (by decide)
  refine ⟨isSegment_cardFileName.mpr segment, ?_, fun up => down (FileName.text.inj up)⟩
  rw [FileName.isIdle, Path.isIdle, Bool.or_eq_false_iff, beq_eq_false_iff_ne, beq_eq_false_iff_ne]
  exact ⟨other (by decide), other (by decide)⟩

/-- The extension of card files comes after a stem. -/
lemma extension?_eq_toml :
    Path.extension? name = some "toml" ↔ ∃ stem, stem ≠ "" ∧ name = cardFileName stem := by
  have dotless : '.' ∉ "toml".toList := by decide
  constructor
  · intro extension
    obtain ⟨joined, full, -⟩ := Path.splitName_eq_some.mp (Prod.ext rfl extension)
    exact ⟨_, full, joined.trans (cardFileName_eq _).symm⟩
  · rintro ⟨stem, full, rfl⟩
    have split := Path.splitName_eq_some.mpr ⟨cardFileName_eq stem, full, dotless⟩
    rw [Path.extension?, split]

/-- The path of a card file has the stem from which the file's name was made. -/
lemma stem_cardFile (segment : Path.IsSegment stem) (full : stem ≠ "") (base : String) :
    Path.stem (Path.join base (cardFileName stem)) = stem := by
  have dotless : '.' ∉ "toml".toList := by decide
  have proper := isName_cardFileName segment
  have split := Path.splitName_eq_some.mpr ⟨cardFileName_eq stem, full, dotless⟩
  rw [Path.stem, Path.fileName_join proper.segment proper.busy, split]

/-! ## Looking through the directory -/

/-- Putting a card file in its place loses none and adds no other. -/
lemma place_perm (spot : Spot) (spots : List Spot) : (place spot spots).Perm (spot :: spots) := by
  induction spots with
  | nil => exact .refl _
  | cons other rest ih =>
    rw [place]
    split_ifs
    · exact .refl _
    · exact (ih.cons other).trans (.swap spot other rest)

/-- Sorting loses no card file and adds none. -/
lemma sort_perm (spots : List Spot) : (sort spots).Perm spots := by
  induction spots with
  | nil => exact .refl _
  | cons spot rest ih => exact (place_perm spot _).trans (ih.cons spot)

/-- The card files that an entry of the directory with these names is or holds. -/
inductive Lists (c : Catalog) (fs : Files) (names : List FileName) : FilePath → Prop
  | direct {name : FileName} : name ∈ names → name.extension? = some "toml" →
    fs.isDirectory (.below c.root name) = false → Lists c fs names (.below c.root name)
  | nested {name : String} : .text name ∈ names → fs.isDirectory (Path.join c.root name) = true →
    fs.isFile (c.nestedPath name) = true → Lists c fs names (c.nestedPath name)

/-- The card files are the sorted ones of the entries, if the root can be listed. -/
lemma cardFiles_eq_ok :
    c.cardFiles fs = .ok paths ↔ ∃ names, fs.list c.root = .ok names ∧
      (sort (names.filterMap (c.cardFileAt? fs))).map c.pathAt = paths := by
  rw [cardFiles, bind_eq_ok]
  cases fs.list c.root with
  | error cause => exact iff_of_false nofun nofun
  | ok names =>
    constructor
    · rintro ⟨names', ⟨⟩, found⟩
      exact ⟨names, rfl, Except.ok.inj found⟩
    · rintro ⟨names', ⟨⟩, found⟩
      exact ⟨names, rfl, congrArg Except.ok found⟩

/-- The card file that an entry of the directory is or holds. -/
inductive Holds (c : Catalog) (fs : Files) : FileName → Spot → Prop
  | direct {name : FileName} : fs.isDirectory (.below c.root name) = false →
    name.extension? = some "toml" → Holds c fs name (.direct name)
  | nested {name : String} : fs.isDirectory (Path.join c.root name) = true →
    fs.isFile (c.nestedPath name) = true → Holds c fs name (.nested name)

/-- What an entry contributes to the card files. -/
lemma cardFileAt?_eq_some {name : FileName} {spot : Spot} :
    c.cardFileAt? fs name = some spot ↔ c.Holds fs name spot := by
  unfold cardFileAt?
  constructor
  · intro found
    cases directory : fs.isDirectory (.below c.root name) with
    | true =>
      cases name with
      | foreign => simp [directory] at found
      | text name =>
        simp only [directory, if_true] at found
        split_ifs at found with file
        cases found
        exact .nested directory file
    | false =>
      simp only [directory, Bool.false_eq_true, if_false] at found
      split_ifs at found with extension
      cases found
      exact .direct directory extension
  · intro holds
    cases holds with
    | direct plain extension => rw [plain, if_neg Bool.false_ne_true, if_pos extension]
    | nested directory file => exact (if_pos directory).trans (if_pos file)

/-- The card files are those that the entries of the directory are or hold. -/
lemma mem_cardFiles (found : c.cardFiles fs = .ok paths) :
    ∃ names, fs.list c.root = .ok names ∧ ∀ path, path ∈ paths ↔ c.Lists fs names path := by
  obtain ⟨names, listed, rfl⟩ := cardFiles_eq_ok.mp found
  refine ⟨names, listed, fun path => ?_⟩
  simp only [List.mem_map, (sort_perm _).mem_iff, List.mem_filterMap, cardFileAt?_eq_some]
  constructor
  · rintro ⟨spot, ⟨name, member, holds⟩, rfl⟩
    cases holds with
    | direct plain extension => exact .direct member extension plain
    | nested directory file => exact .nested member directory file
  · intro lists
    cases lists with
    | direct member extension plain => exact ⟨_, ⟨_, member, .direct plain extension⟩, rfl⟩
    | nested member directory file => exact ⟨_, ⟨_, member, .nested directory file⟩, rfl⟩

/-! ## Reading -/

/-- A text is read from what the path leads to, if that has one. -/
lemma read_eq_ok {content : String} :
    fs.read path = .ok content ↔
      ∃ t, fs.find path = .ok t ∧ t.reading = .ok (.text content) := by
  rw [Files.read, bind_eq_ok]
  refine exists_congr fun t => and_congr_right fun _ => ?_
  cases t.reading with
  | error cause =>
    constructor
    · intro read
      cases read
    · intro same
      cases same
  | ok held =>
    constructor
    · intro read
      cases held with
      | text => rw [Except.ok.inj read]
      | binary => cases read
    · intro same
      cases same
      rfl

/-- A card is read where a text is read that describes one. -/
lemma readCard_eq_ok :
    readCard fs path = .ok card ↔ ∃ text, fs.read path = .ok text ∧
      Card.ofText text path.stem (some path.shown) = .ok card := by
  rw [readCard, bind_eq_ok]
  cases fs.read path with
  | error cause => exact iff_of_false nofun nofun
  | ok text =>
    constructor
    · rintro ⟨text', ⟨⟩, built⟩
      exact ⟨text, rfl, built⟩
    · rintro ⟨text', ⟨⟩, built⟩
      exact ⟨text, rfl, built⟩

/-- Where a card is read there is a file or a device. -/
lemma hasLeaf_of_readCard (read : readCard fs path = .ok card) : fs.HasLeaf path := by
  obtain ⟨text, read, -⟩ := readCard_eq_ok.mp read
  obtain ⟨t, found, read⟩ := read_eq_ok.mp read
  refine ⟨t, found, ?_⟩
  cases t with
  | file => exact .file
  | device => exact .device
  | directory | link => cases read

/-- The list of cards holds what is read from the card files. -/
lemma cards_eq_ok {entries : List Entry} :
    c.cards fs = .ok entries ↔ ∃ paths, c.cardFiles fs = .ok paths ∧
      paths.filterMap (fun path => (readCard fs path).toOption.map fun card =>
        ⟨card.info.name, card.info.comment⟩) = entries := by
  rw [cards, bind_eq_ok]
  refine exists_congr fun paths => and_congr_right fun _ => ?_
  refine Iff.trans ⟨Except.ok.inj, congrArg Except.ok⟩ (Eq.congr_left ?_)
  refine List.filterMap_congr fun path _ => ?_
  cases readCard fs path <;> rfl

/-- An entry is listed exactly if it is the one of a card that is read from a card file. -/
lemma mem_cards {entries : List Entry} (found : c.cards fs = .ok entries)
    (listed : c.cardFiles fs = .ok paths) (entry : Entry) :
    entry ∈ entries ↔ ∃ path ∈ paths, ∃ card, readCard fs path = .ok card ∧
      entry = ⟨card.info.name, card.info.comment⟩ := by
  obtain ⟨paths', listed', rfl⟩ := cards_eq_ok.mp found
  cases listed.symm.trans listed'
  rw [List.mem_filterMap]
  refine exists_congr fun path => and_congr_right fun _ => ?_
  rw [Option.map_eq_some_iff]
  refine exists_congr fun card => and_congr ?_ eq_comm
  cases readCard fs path <;> simp [Except.toOption]

/-! ## Files by name -/

/-- Of the two files of a name the one below the root comes first. -/
lemma fileOf?_eq :
    c.fileOf? fs name =
      if fs.isFile (c.directPath name) then some (c.directPath name)
      else if fs.isFile (c.nestedPath name) then some (c.nestedPath name) else none := by
  rw [fileOf?, List.find?_cons, List.find?_cons, List.find?_nil]
  cases fs.isFile (c.directPath name) <;> cases fs.isFile (c.nestedPath name) <;> rfl

/-- The file of a name is a file at one of its two paths. -/
lemma isFile_of_fileOf? (found : c.fileOf? fs name = some path) :
    fs.isFile path = true ∧ (path = c.directPath name ∨ path = c.nestedPath name) := by
  obtain file := List.find?_some found
  have member := List.mem_of_find?_eq_some found
  rw [List.mem_pair] at member
  exact ⟨file, member⟩

/-- A file of exactly the name decides. -/
lemma load_of_fileOf? {spec : CardName} (named : spec.fileName? = some name)
    (found : c.fileOf? fs name = some path) : c.load fs spec = readCard fs path := by
  have same : spec.fileName?.bind (c.fileOf? fs) = some path := by
    rw [named]
    exact found
  unfold load
  rw [same]

variable {fs' : Files} {spec : CardName}

/-- The file of a name is the same as long as the same paths are those of files. -/
lemma fileOf?_congr (direct : fs'.isFile (c.directPath name) = fs.isFile (c.directPath name))
    (nested : fs.isFile (c.directPath name) = false →
      fs'.isFile (c.nestedPath name) = fs.isFile (c.nestedPath name)) :
    c.fileOf? fs' name = c.fileOf? fs name := by
  rw [fileOf?_eq, fileOf?_eq, direct]
  cases above : fs.isFile (c.directPath name) with
  | true => rfl
  | false => rw [nested above]

/-- A card is opened through the file of its name or through the search. -/
lemma load_congr
    (found : spec.fileName?.bind (c.fileOf? fs') = spec.fileName?.bind (c.fileOf? fs))
    (read : ∀ path, spec.fileName?.bind (c.fileOf? fs) = some path →
      readCard fs' path = readCard fs path)
    (searched : c.cardFiles fs' >>= search fs' spec = c.cardFiles fs >>= search fs spec) :
    c.load fs' spec = c.load fs spec := by
  unfold load
  rw [found]
  cases file : spec.fileName?.bind (c.fileOf? fs) with
  | some path => exact read path file
  | none =>
    cases spec with
    | strict => rfl
    | named | index | identifier => exact searched

end Catalog

end UseCase
