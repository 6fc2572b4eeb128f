import UseCase.Proofs.CardName
import UseCase.Proofs.Catalog

/-!
# Card files by their stems

Every card file that looking through the directory finds is also found by its stem, if it is a file
and its name is a text. The stem of `NAME/NAME.toml` belongs to the file `NAME.toml` beside it as
well, which comes first.
-/

namespace UseCase

/-- A name after `strict:` stands for the file with this name. -/
lemma CardName.parse_strict {name : String} (full : name ≠ "") :
    parse ("strict:" ++ name) = .ok (.strict name) :=
  (WrittenAs.strict full).parse

namespace Catalog

variable {c : Catalog} {fs : Files} {path : FilePath} {names : List FileName}
  {paths : List FilePath}

/-- The paths that card files can have: `NAME.toml` and `NAME/NAME.toml` below the root for a name
that is one segment, and those where `NAME` is no text. -/
inductive CardPath (c : Catalog) : FilePath → Prop
  | direct {stem : String} : Path.IsSegment stem → stem ≠ "" → CardPath c (c.directPath stem)
  | nested {stem : String} : Path.IsSegment stem → stem ≠ "" → CardPath c (c.nestedPath stem)
  | foreign {name : ForeignName} : FileName.extension? (.foreign name) = some "toml" →
    CardPath c (.below c.root (.foreign name))

/-- A listed file has one of these paths, if the entries have proper names. -/
lemma Lists.cardPath (proper : ∀ name ∈ names, name.IsName) (lists : c.Lists fs names path) :
    c.CardPath path := by
  cases lists with
  | nested member _ _ =>
    have named := proper _ member
    exact .nested named.segment named.ne_empty
  | @direct name member extension _ =>
    cases name with
    | foreign name => exact .foreign extension
    | text name =>
      obtain ⟨stem, full, rfl⟩ := extension?_eq_toml.mp extension
      exact .direct (isSegment_cardFileName.mp (proper _ member).segment) full

/-- A card file whose path is a text is one of the two files that belong to its stem. -/
lemma CardPath.of_stem (place : c.CardPath path) (isText : path.last = none) :
    Path.IsSegment path.stem ∧ path.stem ≠ "" ∧
      (path = c.directPath path.stem ∨ path = c.nestedPath path.stem) := by
  cases place with
  | @direct stem segment full =>
    have same : (c.directPath stem).stem = stem := stem_cardFile segment full _
    rw [same]
    exact ⟨segment, full, .inl rfl⟩
  | @nested stem segment full =>
    have same : (c.nestedPath stem).stem = stem := stem_cardFile segment full _
    rw [same]
    exact ⟨segment, full, .inr rfl⟩
  | foreign => cases isText

/-- Every card that looking through the directory of a catalog finds in a file whose name is a text
can be opened by the stem of its file after `strict:`, and it is what is read from that file. Only
where the file is `NAME/NAME.toml` and there is a file `NAME.toml` too, it is what is read from the
latter, if anything. The list of cards holds exactly the cards that looking through the directory
finds. -/
theorem load_strict_stem (named : fs.Named) (listed : c.cardFiles fs = .ok paths) :
    (∀ path ∈ paths, path.last = none → fs.isFile path = true →
      ∀ card, readCard fs path = .ok card →
        CardName.parse ("strict:" ++ path.stem) = .ok (.strict path.stem) ∧
        c.load fs (.strict path.stem) =
          if path = c.nestedPath path.stem ∧ fs.isFile (c.directPath path.stem) then
            readCard fs (c.directPath path.stem)
          else .ok card) ∧
    ∃ entries, c.cards fs = .ok entries ∧ ∀ entry, entry ∈ entries ↔
      ∃ path ∈ paths, ∃ card, readCard fs path = .ok card ∧
        entry = ⟨card.info.name, card.info.comment⟩ := by
  obtain ⟨names, inside, lists⟩ := mem_cardFiles listed
  constructor
  · intro path member isText file card read
    have proper : ∀ name ∈ names, name.IsName := fun name => named.isName inside
    obtain ⟨-, full, place⟩ := (((lists path).mp member).cardPath proper).of_stem isText
    refine ⟨CardName.parse_strict full, ?_⟩
    generalize path.stem = stem at place
    cases direct : fs.isFile (c.directPath stem) with
    | true =>
      have found : c.fileOf? fs stem = some (c.directPath stem) := by rw [fileOf?_eq, if_pos direct]
      rw [load_of_fileOf? rfl found]
      rcases place with rfl | rfl
      · rw [read, ite_self]
      · rw [if_pos ⟨rfl, rfl⟩]
    | false =>
      rcases place with rfl | rfl
      · cases direct.symm.trans file
      · have found : c.fileOf? fs stem = some (c.nestedPath stem) := by
          rw [fileOf?_eq, direct, if_neg Bool.false_ne_true, if_pos file]
        rw [load_of_fileOf? rfl found, read, if_neg fun both => Bool.false_ne_true both.2]
  · have found := cards_eq_ok.mpr ⟨paths, listed, rfl⟩
    exact ⟨_, found, mem_cards found listed⟩

/-- What an empty card file describes. -/
def bare (name path : String) : Card where
  info := { CardInfo.plain name with file := some path }
  defaults := .empty
  fixedBoot := []
  boot := []
  defaultsSequence := []
  verbs := []

/-- Empty card files with several dots in their names, in a directory that is called like a card
file, and beside a directory of the same name; one below that is never looked at. -/
def shelf : Files where
  entries := [("cfg", .directory
    [("x", .directory [("x.toml", blank), ("y.toml", blank)] FileTree.openMode), ("x.toml", blank),
      ("n.toml", .directory [("n.toml.toml", blank)] FileTree.openMode), ("a.b.toml", blank)]
    FileTree.openMode)]
  working := []
where
  blank : FileTree := .file (.text "") FileTree.plainMode

/-- All names in `shelf` are proper. -/
lemma shelf_named : shelf.Named := by
  refine .directory (by decide) (List.forall_mem_singleton.mpr (.directory (by decide) ?_))
  simp only [List.forall_mem_cons]
  refine ⟨.directory (by decide) ?_, .file, .directory (by decide) ?_, .file, nofun⟩
  · exact List.forall_mem_cons.mpr ⟨.file, List.forall_mem_singleton.mpr .file⟩
  · exact List.forall_mem_singleton.mpr .file

/-- The four card files of `shelf`, in their order. -/
lemma cardFiles_shelf : (⟨"cfg"⟩ : Catalog).cardFiles shelf =
    .ok ["cfg/a.b.toml", "cfg/n.toml/n.toml.toml", "cfg/x/x.toml", "cfg/x.toml"] := by
  decide +kernel

/-- All four files are listed, and the one in the directory `x` is hidden by the one beside it. -/
theorem load_strict_stem_of_shelf :
    ∃ paths, (⟨"cfg"⟩ : Catalog).cardFiles shelf = .ok paths ∧ paths.length = 4 ∧
      (⟨"cfg"⟩ : Catalog).load shelf (.strict "a.b") = .ok (bare "a.b" "cfg/a.b.toml") ∧
      (⟨"cfg"⟩ : Catalog).load shelf (.strict "n.toml") =
        .ok (bare "n.toml" "cfg/n.toml/n.toml.toml") ∧
      readCard shelf "cfg/x/x.toml" = .ok (bare "x" "cfg/x/x.toml") ∧
      (⟨"cfg"⟩ : Catalog).load shelf (.strict "x") = .ok (bare "x" "cfg/x.toml") := by
  have opened := (load_strict_stem shelf_named cardFiles_shelf).1
  have hidden : readCard shelf "cfg/x/x.toml" = .ok (bare "x" "cfg/x/x.toml") := by decide +kernel
  have dotted := (opened "cfg/a.b.toml" (by decide) rfl (by decide +kernel)
    (bare "a.b" "cfg/a.b.toml") (by decide +kernel)).2
  have nested := (opened "cfg/n.toml/n.toml.toml" (by decide) rfl (by decide +kernel)
    (bare "n.toml" "cfg/n.toml/n.toml.toml") (by decide +kernel)).2
  have above := (opened "cfg/x/x.toml" (by decide) rfl (by decide +kernel) _ hidden).2
  refine ⟨_, cardFiles_shelf, rfl, ?_, ?_, hidden, ?_⟩
  · exact dotted.trans (by decide +kernel)
  · exact nested.trans (by decide +kernel)
  · exact above.trans (by decide +kernel)

/-- A name of a card file that is no text. -/
def oddName : ForeignName where
  bytes := '\xff' :: ".toml".toList
  isForeign := by decide +kernel

/-- Card files that are not opened by their stems: `x.toml` leads to a device, and the name of the
other one is no text. -/
def odd : Files where
  entries := [("cfg", .directory [("x.toml", .link "/dev/null"), (.foreign oddName, titled)]
      FileTree.openMode),
    ("dev", .directory [("null", .device .null 0o666)] FileTree.openMode)]
  working := []
where
  titled : FileTree := .file (.text "[card]\nname = \"O\"\n") FileTree.plainMode

/-- A device is listed and read as a card file, but its stem does not open it. Nor does any stem open
a card file whose name is no text. -/
theorem stem_of_odd_file :
    (⟨"cfg"⟩ : Catalog).cardFiles odd = .ok ["cfg/x.toml", ⟨"cfg", oddName⟩] ∧
      (⟨"cfg"⟩ : Catalog).cards odd = .ok [⟨"x", none⟩, ⟨"O", none⟩] ∧
      readCard odd "cfg/x.toml" = .ok (bare "x" "cfg/x.toml") ∧
      (⟨"cfg"⟩ : Catalog).load odd (.strict "x") = .error (.notFound (.card (.strict "x"))) ∧
      readCard odd ⟨"cfg", oddName⟩ = .ok (bare "O" "cfg/\ufffd.toml") ∧
      FilePath.stem ⟨"cfg", oddName⟩ = "" ∧
      (⟨"cfg"⟩ : Catalog).load odd (.strict "") = .error (.notFound (.card (.strict ""))) := by
  refine ⟨?_, ?_, ?_, ?_, ?_, ?_, ?_⟩ <;> decide +kernel

end Catalog

end UseCase
