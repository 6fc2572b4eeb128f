import UseCase.Proofs.Additions
import UseCase.Proofs.ListingOrder

/-!
# Neighbours of card files

A file or device that is added to a catalog changes nothing for the others, unless a card is read
from it or it is the one that a name asks for: of the card files only those from which a card is
read matter, and these are the same and in the same order. A path counts for where it leads, be it
through links.
-/

namespace UseCase

open Files FileTree

namespace Catalog

variable {c : Catalog} {fs fs' : Files} {place there : List FileName} {name : FileName}
  {path : FilePath} {spot : Spot} {names : List FileName} {paths : List FilePath} {card : Card}
  {spec : CardName}

/-! ## What can be read -/

/-- The cards that are read from files, with their paths. -/
def readable (fs : Files) (paths : List FilePath) : List (FilePath × Card) :=
  paths.filterMap fun path => (readCard fs path).toOption.map fun card => (path, card)

/-- A search finds the first card that is read and selected. -/
lemma search_eq_readable :
    search fs spec paths =
      match (readable fs paths).find? fun entry =>
        spec.selects entry.1.stem entry.2.info with
      | some entry => .ok entry.2
      | none => .error (.notFound (.card spec)) := by
  induction paths with
  | nil => rfl
  | cons path paths ih =>
    rw [search, readable, List.filterMap_cons]
    cases readCard fs path with
    | error fault => exact ih
    | ok card =>
      simp only [Except.toOption, Option.map_some, List.find?_cons]
      cases spec.selects path.stem card.info with
      | true => rfl
      | false => exact ih

/-- The list of cards has the cards that are read. -/
lemma cards_eq_readable (listed : c.cardFiles fs = .ok paths) :
    c.cards fs = .ok ((readable fs paths).map fun entry =>
      ⟨entry.2.info.name, entry.2.info.comment⟩) := by
  refine cards_eq_ok.mpr ⟨paths, listed, ?_⟩
  rw [readable, List.map_filterMap]
  refine List.filterMap_congr fun path _ => ?_
  rw [Option.map_map]
  rfl

/-- A card is read from the file that an entry is or holds. -/
structure Offers (c : Catalog) (fs : Files) (name : FileName) (spot : Spot) (card : Card) :
    Prop where
  found : c.Holds fs name spot
  read : readCard fs (c.pathAt spot) = .ok card

/-- Whether a card is read from a card file. -/
def loads (c : Catalog) (fs : Files) (spot : Spot) : Bool :=
  (readCard fs (c.pathAt spot)).toOption.isSome

/-- What an entry holds counts if a card is read from it. -/
lemma filter_loads_eq_some :
    (c.cardFileAt? fs name).filter (c.loads fs) = some spot ↔
      ∃ card, c.Offers fs name spot card := by
  rw [Option.filter_eq_some_iff, loads, cardFileAt?_eq_some]
  constructor
  · rintro ⟨found, read⟩
    cases result : readCard fs (c.pathAt spot) with
    | ok card => exact ⟨card, found, result⟩
    | error fault =>
      rw [result] at read
      cases read
  · rintro ⟨card, found, read⟩
    rw [read]
    exact ⟨found, rfl⟩

/-- Files from which no card is read may be left out before sorting. -/
lemma readable_eq (listed : fs.list c.root = .ok names) (found : c.cardFiles fs = .ok paths) :
    readable fs paths =
      readable fs ((sort (names.filterMap fun name =>
        (c.cardFileAt? fs name).filter (c.loads fs))).map c.pathAt) := by
  obtain ⟨names', listed', rfl⟩ := cardFiles_eq_ok.mp found
  cases listed.symm.trans listed'
  rw [← List.filter_filterMap, ← filter_sort, readable, readable, List.filterMap_map,
    List.filterMap_map, List.filterMap_filter]
  refine List.filterMap_congr fun spot _ => ?_
  rw [loads, Function.comp_apply]
  cases readCard fs (c.pathAt spot) <;> rfl

/-! ## One more file -/

/-- No card is read from what was added, through whichever card file this is. -/
def Harmless (c : Catalog) (fs' : Files) (place : List FileName) : Prop :=
  ∀ paths, c.cardFiles fs' = .ok paths → ∀ path ∈ paths, fs'.locate path = .ok place →
    ∀ card, readCard fs' path ≠ .ok card

/-- What was read before is read afterwards. -/
lemma read_added (adds : fs.Adds fs' place) (leaf : fs.HasLeaf path) :
    fs'.read path = fs.read path := by
  obtain ⟨t, found, leaf⟩ := leaf
  rw [Files.read, Files.read, found, adds.find_leaf leaf found]

/-- The card that was read before is read afterwards. -/
lemma readCard_added (adds : fs.Adds fs' place) (leaf : fs.HasLeaf path) :
    readCard fs' path = readCard fs path := by
  rw [readCard, readCard, read_added adds leaf]

/-- A card that was read before is read afterwards. -/
lemma Offers.added (adds : fs.Adds fs' place) (offers : c.Offers fs name spot card) :
    c.Offers fs' name spot card := by
  have leaf := hasLeaf_of_readCard offers.read
  refine ⟨?_, (readCard_added adds leaf).trans offers.read⟩
  cases offers.found with
  | nested directory file => exact .nested (adds.isDirectory directory) (adds.isFile file)
  | direct _ extension => exact .direct (isDirectory_of_hasLeaf (adds.hasLeaf leaf)) extension

/-- A file or device that is not the one that was added was there before. -/
lemma leaf_before (adds : fs.Adds fs' place) {t : FileTree} (found : fs'.at? there = some t)
    (leaf : t.IsLeaf) (other : there ≠ place) : fs.at? there = some t := by
  cases old : fs.at? there with
  | none =>
    rcases adds.fresh old found with ⟨-, entries, mode, rfl⟩ | ⟨here, -⟩
    · cases leaf
    · exact absurd here other
  | some t' =>
    obtain ⟨t'', found', grows⟩ := adds.grows old
    cases found'.symm.trans found
    cases grows with
    | refl => rfl
    | directory => cases leaf

/-- What an entry of the root leads to afterwards was there before, other than what was added. -/
lemma direct_before (adds : fs.Adds fs' place) (unmended : fs.Unmended fs')
    (segment : name.IsSegment) (root : fs.isDirectory c.root = true) {t : FileTree}
    (found : fs'.find (.below c.root name) = .ok t) (leaf : t.IsLeaf)
    (other : fs'.locate (.below c.root name) ≠ .ok place) :
    fs.find (.below c.root name) = .ok t := by
  obtain ⟨there, located, last⟩ := find_eq_ok.mp found
  have old := leaf_before adds last leaf fun here => other (here ▸ located)
  exact find_eq_ok.mpr ⟨there, adds.locate_back unmended segment root old located, old⟩

/-- The same for the file in a directory of its own. -/
lemma nested_before {name : String} (adds : fs.Adds fs' place) (unmended : fs.Unmended fs')
    (segment : Path.IsSegment name) (root : fs.isDirectory c.root = true)
    (file : fs'.isFile (c.nestedPath name) = true)
    (other : fs'.locate (c.nestedPath name) ≠ .ok place) :
    fs.isDirectory (Path.join c.root name) = true ∧ fs.isFile (c.nestedPath name) = true := by
  obtain ⟨there, content, mode, located, last⟩ := isFile_iff_located.mp file
  have old := leaf_before adds last .file fun here => other (here ▸ located)
  obtain ⟨directory, before⟩ := adds.locate_back_below unmended segment
    (isName_cardFileName segment) root old located
  exact ⟨directory, isFile_iff_located.mpr ⟨there, content, mode, before, old⟩⟩

/-- A card that is read afterwards was read before. -/
lemma Offers.before (adds : fs.Adds fs' place) (unmended : fs.Unmended fs')
    (harmless : c.Harmless fs' place) (root : fs.isDirectory c.root = true)
    (listed : fs'.list c.root = .ok names) (member : name ∈ names) (segment : name.IsSegment)
    (offers : c.Offers fs' name spot card) : c.Offers fs name spot card := by
  -- It is read from one of the card files, so this is not what was added.
  have other : fs'.locate (c.pathAt spot) ≠ .ok place := by
    intro located
    obtain ⟨paths, found⟩ : ∃ paths, c.cardFiles fs' = .ok paths :=
      ⟨_, cardFiles_eq_ok.mpr ⟨names, listed, rfl⟩⟩
    refine harmless paths found _ ?_ located card offers.read
    obtain ⟨names'', listed', rfl⟩ := cardFiles_eq_ok.mp found
    cases listed.symm.trans listed'
    refine List.mem_map_of_mem ((sort_perm _).mem_iff.mpr ?_)
    exact List.mem_filterMap.mpr ⟨name, member, cardFileAt?_eq_some.mpr offers.found⟩
  obtain ⟨found, read⟩ := offers
  cases found with
  | nested _ file =>
    obtain ⟨directory, file⟩ := nested_before adds unmended segment root file other
    have leaf := hasLeaf_of_isFile file
    exact ⟨.nested directory file, (readCard_added adds leaf).symm.trans read⟩
  | direct _ extension =>
    obtain ⟨t, found, isLeaf⟩ := hasLeaf_of_readCard read
    have leaf : fs.HasLeaf (.below c.root name) :=
      ⟨t, direct_before adds unmended segment root found isLeaf other, isLeaf⟩
    exact ⟨.direct (isDirectory_of_hasLeaf leaf) extension,
      (readCard_added adds leaf).symm.trans read⟩

/-- A name without an entry is not among the names. -/
lemma not_mem_of_child? {entries : List (FileName × FileTree)}
    (absent : child? name entries = none) : name ∉ entries.map Prod.fst := by
  intro member
  obtain ⟨entry, inside, rfl⟩ := List.mem_map.mp member
  rw [child?, Option.map_eq_none_iff, List.find?_eq_none] at absent
  exact absent entry inside (beq_self_eq_true _)

/-- The directory lists what it listed, and then what is new. -/
lemma list_added (adds : fs.Adds fs' place) (listed : fs.list c.root = .ok names) :
    ∃ more, fs'.list c.root = .ok (names ++ more) ∧ ∀ name ∈ more, name ∉ names := by
  obtain ⟨entries, mode, found, rfl⟩ := list_eq_ok.mp listed
  obtain ⟨there, located, last⟩ := find_eq_ok.mp found
  obtain ⟨t', last', grows⟩ := adds.grows last
  have found' : fs'.find c.root = .ok t' := find_eq_ok.mpr ⟨there, adds.locate located, last'⟩
  cases grows with
  | refl =>
    refine ⟨[], ?_, nofun⟩
    rw [List.append_nil]
    exact list_eq_ok.mpr ⟨entries, mode, found', rfl⟩
  | @directory _ entries' more _ same new =>
    exact ⟨more, list_eq_ok.mpr ⟨entries', mode, found', same⟩,
      fun name member => not_mem_of_child? (new name member)⟩

/-- What an entry offers is listed. -/
lemma Offers.listed (root : c.root ≠ "") (listed : fs.list c.root = .ok names)
    (proper : name.IsName) (offers : c.Offers fs name spot card) : name ∈ names := by
  obtain ⟨there, located⟩ : ∃ there, fs.locate (.below c.root name) = .ok there := by
    obtain ⟨found, read⟩ := offers
    cases found with
    | nested directory _ =>
      obtain ⟨there, entries, mode, located, -⟩ := isDirectory_iff_located.mp directory
      exact ⟨there, located⟩
    | direct =>
      obtain ⟨there, t, located, -⟩ := hasLeaf_iff_located.mp (hasLeaf_of_readCard read)
      exact ⟨there, located⟩
  obtain ⟨names', listed', inside⟩ := list_of_locate proper root located
  cases listed.symm.trans listed'
  exact inside

section

variable (adds : fs.Adds fs' place) (unmended : fs.Unmended fs')
  (root : fs.isDirectory c.root = true)

include adds unmended root

/-- An entry that is listed offers what it offered. -/
lemma filter_loads_added (harmless : c.Harmless fs' place) (listed : fs'.list c.root = .ok names)
    (member : name ∈ names) (segment : name.IsSegment) :
    (c.cardFileAt? fs' name).filter (c.loads fs') =
      (c.cardFileAt? fs name).filter (c.loads fs) := by
  ext spot
  rw [filter_loads_eq_some, filter_loads_eq_some]
  refine exists_congr fun card => ⟨fun offers => ?_, fun offers => offers.added adds⟩
  exact offers.before adds unmended harmless root listed member segment

/-- The same cards are read from the card files, in the same order. -/
lemma readable_added (named : fs'.Named) (harmless : c.Harmless fs' place) :
    ∃ paths paths', c.cardFiles fs = .ok paths ∧ c.cardFiles fs' = .ok paths' ∧
      readable fs' paths' = readable fs paths := by
  have full := ne_empty_of_isDirectory root
  obtain ⟨entries, mode, found⟩ := isDirectory_iff.mp root
  have listed : fs.list c.root = .ok (entries.map Prod.fst) :=
    list_eq_ok.mpr ⟨entries, mode, found, rfl⟩
  obtain ⟨more, listed', new⟩ := list_added adds listed
  obtain ⟨paths, files⟩ : ∃ paths, c.cardFiles fs = .ok paths :=
    ⟨_, cardFiles_eq_ok.mpr ⟨_, listed, rfl⟩⟩
  obtain ⟨paths', files'⟩ : ∃ paths, c.cardFiles fs' = .ok paths :=
    ⟨_, cardFiles_eq_ok.mpr ⟨_, listed', rfl⟩⟩
  refine ⟨paths, paths', files, files', ?_⟩
  have same : ∀ name ∈ entries.map Prod.fst ++ more,
      (c.cardFileAt? fs' name).filter (c.loads fs') = (c.cardFileAt? fs name).filter (c.loads fs) :=
    fun name member => filter_loads_added adds unmended root harmless listed' member
      (named.isName listed' member).segment
  -- What an entry offers it offered before, and it was listed then.
  have none : more.filterMap (fun name => (c.cardFileAt? fs name).filter (c.loads fs)) = [] := by
    refine List.filterMap_eq_nil_iff.mpr fun name member => ?_
    have proper := named.isName listed' (List.mem_append_right _ member)
    refine Option.eq_none_iff_forall_ne_some.mpr fun spot offered => ?_
    obtain ⟨card, offers⟩ := filter_loads_eq_some.mp offered
    exact new name member (offers.listed full listed proper)
  rw [readable_eq listed files, readable_eq listed' files', List.filterMap_congr same,
    List.filterMap_append, none, List.append_nil]
  refine List.filterMap_congr fun path member => ?_
  obtain ⟨spot, sorted, rfl⟩ := List.mem_map.mp member
  obtain ⟨name, -, offered⟩ := List.mem_filterMap.mp ((sort_perm _).mem_iff.mp sorted)
  obtain ⟨card, offers⟩ := filter_loads_eq_some.mp offered
  rw [readCard_added adds (hasLeaf_of_readCard offers.read)]

/-- The file of a name is the same unless it is the one that was added. -/
lemma fileOf?_added {name : String} (segment : Path.IsSegment name)
    (other : ∀ path, c.fileOf? fs' name = some path → fs'.locate path ≠ .ok place) :
    c.fileOf? fs' name = c.fileOf? fs name := by
  have direct : fs'.isFile (c.directPath name) = fs.isFile (c.directPath name) := by
    refine Bool.eq_iff_iff.mpr ⟨fun file => ?_, adds.isFile⟩
    have segment' : FileName.IsSegment (cardFileName name) := isSegment_cardFileName.mpr segment
    have found : c.fileOf? fs' name = some (c.directPath name) := by rw [fileOf?_eq, if_pos file]
    obtain ⟨content, mode, reached⟩ := isFile_iff.mp file
    have before := direct_before adds unmended segment' root reached .file (other _ found)
    exact isFile_iff.mpr ⟨content, mode, before⟩
  refine fileOf?_congr direct fun above => Bool.eq_iff_iff.mpr ⟨fun file => ?_, adds.isFile⟩
  have found : c.fileOf? fs' name = some (c.nestedPath name) := by
    rw [fileOf?_eq, direct, above, if_neg Bool.false_ne_true, if_pos file]
  exact (nested_before adds unmended segment root file (other _ found)).2

end

/-- In what order directories list their entries changes neither what is opened nor the list of
cards. Nor does a further file, with the directories that are missing on its way, unless a card is
read from it as one of the card files, it is the file that the name asks for, or a broken link comes
to lead to something else. And where there is a file of the name it decides. -/
theorem load_among_neighbours (root : fs.isDirectory c.root = true)
    (segment : ∀ name, spec.fileName? = some name → Path.IsSegment name) :
    (∀ fs', fs.Reordered fs' → c.load fs' spec = c.load fs spec ∧ c.cards fs' = c.cards fs) ∧
    (∀ fs' place, fs'.Named → fs.Adds fs' place → fs.Unmended fs' → c.Harmless fs' place →
      (∀ path, spec.fileName?.bind (c.fileOf? fs') = some path → fs'.locate path ≠ .ok place) →
      c.load fs' spec = c.load fs spec ∧ c.cards fs' = c.cards fs) ∧
    ∀ name path, spec = .named name → c.fileOf? fs name = some path →
      c.load fs spec = readCard fs path := by
  refine ⟨?_, ?_, ?_⟩
  · intro fs' reordered
    exact ⟨load_reordered reordered spec, cards_reordered reordered⟩
  · intro fs' place named adds unmended harmless other
    obtain ⟨paths, paths', files, files', same⟩ :=
      readable_added adds unmended root named harmless
    constructor
    · refine load_congr ?_ (fun path found => ?_) ?_
      · cases asked : spec.fileName? with
        | none => rfl
        | some name =>
          rw [asked] at other
          exact fileOf?_added adds unmended root (segment name asked) other
      · obtain ⟨name, -, found⟩ := Option.bind_eq_some_iff.mp found
        exact readCard_added adds (hasLeaf_of_isFile (isFile_of_fileOf? found).1)
      · rw [files, files', ok_bind, ok_bind, search_eq_readable, search_eq_readable, same]
    · rw [cards_eq_readable files, cards_eq_readable files', same]
  · rintro name path rfl found
    exact load_of_fileOf? rfl found

/-- One card file. -/
def lone : Files where
  entries := [("cfg", .directory [("a.toml", shelf.blank)] openMode)]
  working := []

/-- The same and a file beside it that describes no card. -/
def joined : Files where
  entries := [("cfg", .directory
    [("a.toml", shelf.blank), ("b.toml", .file (.text "[") plainMode)] openMode)]
  working := []

/-- The same in another order. -/
def turned : Files where
  entries := [("cfg", .directory
    [("b.toml", .file (.text "[") plainMode), ("a.toml", shelf.blank)] openMode)]
  working := []

/-- All names in `joined` are proper. -/
lemma joined_named : joined.Named := by
  refine .directory (by decide) (List.forall_mem_singleton.mpr (.directory (by decide) ?_))
  exact List.forall_mem_cons.mpr ⟨.file, List.forall_mem_singleton.mpr .file⟩

/-- The file that was added in `joined` is no card file that loads. -/
lemma harmless_joined : (⟨"cfg"⟩ : Catalog).Harmless joined ["cfg", "b.toml"] := by
  have two : (⟨"cfg"⟩ : Catalog).cardFiles joined = .ok ["cfg/a.toml", "cfg/b.toml"] := by
    decide +kernel
  intro paths listed
  cases two.symm.trans listed
  refine List.forall_mem_cons.mpr ⟨?_, List.forall_mem_singleton.mpr ?_⟩
  · intro located
    have elsewhere : joined.locate "cfg/a.toml" = .ok ["cfg", "a.toml"] := by decide +kernel
    exact absurd (Except.ok.inj (elsewhere.symm.trans located)) (by decide)
  · intro _ card read
    have broken : (readCard joined "cfg/b.toml").toOption = none := by decide +kernel
    rw [read] at broken
    cases broken

/-- The card is opened and listed beside the other file, in both orders. -/
theorem load_among_neighbours_of_joined :
    (⟨"cfg"⟩ : Catalog).load joined (.named "a") = .ok (bare "a" "cfg/a.toml") ∧
      (⟨"cfg"⟩ : Catalog).cards joined = .ok [⟨"a", none⟩] ∧
      (⟨"cfg"⟩ : Catalog).load turned (.named "a") = .ok (bare "a" "cfg/a.toml") ∧
      (⟨"cfg"⟩ : Catalog).cards turned = .ok [⟨"a", none⟩] := by
  have segment : ∀ name, (CardName.named "a").fileName? = some name → Path.IsSegment name := by
    rintro _ ⟨⟩
    decide
  have inside : lone.at? ["cfg"] = some (.directory [("a.toml", shelf.blank)] openMode) := rfl
  have absent : lone.at? (["cfg"] ++ ["b.toml"]) = none := rfl
  have adds : lone.Adds joined (["cfg"] ++ ["b.toml"]) :=
    adds_to_directory .file inside absent
  have reordered : joined.Reordered turned := by
    have swapped : FileTree.Reordered (.directory [("a.toml", shelf.blank),
        ("b.toml", .file (.text "[") plainMode)] openMode) (.directory
          [("b.toml", .file (.text "[") plainMode), ("a.toml", shelf.blank)] openMode) :=
      .directory (by decide) (.swap _ _ _)
    exact ⟨rfl, @FileTree.Reordered.entry [] [] "cfg" _ _ openMode swapped⟩
  have other : ∀ path, (CardName.named "a").fileName?.bind ((⟨"cfg"⟩ : Catalog).fileOf? joined) =
      some path → joined.locate path ≠ .ok ["cfg", "b.toml"] := by
    have own : (CardName.named "a").fileName?.bind ((⟨"cfg"⟩ : Catalog).fileOf? joined) =
        some "cfg/a.toml" := by decide +kernel
    intro path found
    cases own.symm.trans found
    decide +kernel
  have root : lone.isDirectory (⟨"cfg"⟩ : Catalog).root = true := by decide +kernel
  have root' : joined.isDirectory (⟨"cfg"⟩ : Catalog).root = true := by decide +kernel
  have added := (load_among_neighbours root segment).2.1 joined ["cfg", "b.toml"] joined_named adds
    (adds.unmended inside) harmless_joined other
  have again := (load_among_neighbours root' segment).1 turned reordered
  have opened : (⟨"cfg"⟩ : Catalog).load lone (.named "a") = .ok (bare "a" "cfg/a.toml") := by
    decide +kernel
  have entries : (⟨"cfg"⟩ : Catalog).cards lone = .ok [⟨"a", none⟩] := by decide +kernel
  exact ⟨added.1.trans opened, added.2.trans entries, again.1.trans (added.1.trans opened),
    again.2.trans (added.2.trans entries)⟩

/-- A card file beside links: `y.toml` leads nowhere, and `x` would lead through a directory that is
not there. -/
def linked : Files where
  entries := [("cfg", .directory
    [("a.toml", shelf.blank), ("y.toml", .link "z.txt"), ("x", .link "new/../sub"),
      ("sub", .directory [("x.toml", shelf.blank)] openMode)] openMode)]
  working := []

/-- Files that are no card files themselves are listed through a link that leads to them, or make a
link lead to a card file through their directory. -/
theorem cards_through_links :
    linked.isDirectory "cfg" = true ∧
      (⟨"cfg"⟩ : Catalog).cards linked = .ok [⟨"a", none⟩] ∧
      Path.extension? "z.txt" ≠ some "toml" ∧
      (⟨"cfg"⟩ : Catalog).cards (linked.set ["cfg", "z.txt"] (some shelf.blank)) =
        .ok [⟨"a", none⟩, ⟨"y", none⟩] ∧
      Path.extension? "note.txt" ≠ some "toml" ∧
      (⟨"cfg"⟩ : Catalog).cards (linked.set ["cfg", "new", "note.txt"] (some shelf.blank)) =
        .ok [⟨"a", none⟩, ⟨"x", none⟩] ∧
      ∀ fs, (CardName.index 0).fileName?.bind ((⟨"cfg"⟩ : Catalog).fileOf? fs) = none := by
  refine ⟨?_, ?_, ?_, ?_, ?_, ?_, fun fs => rfl⟩ <;> decide +kernel

end Catalog

end UseCase
