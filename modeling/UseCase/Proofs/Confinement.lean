import UseCase.Proofs.Stems

/-!
# What opening a card reads

The files that belong to a name are among the listed card files as long as the name is one segment
and does not lead up. Opening a card with such a name, or by its index or identifier, then depends
on the listed files alone. With any other name it reads what lies at the end of the path.
-/

namespace UseCase

open Files FileTree

namespace Catalog

variable {c : Catalog} {fs fs' : Files} {name : String} {path : FilePath}
  {names : List FileName} {paths : List FilePath} {card : Card} {spec : CardName}

/-! ## The files of a name are listed -/

/-- Where the path of an entry of the root leads somewhere, the root is a directory that lists it. -/
lemma list_of_locate {name : FileName} {there : List FileName} (proper : name.IsName)
    (root : c.root ≠ "") (located : fs.locate (.below c.root name) = .ok there) :
    ∃ names, fs.list c.root = .ok names ∧ name ∈ names := by
  obtain ⟨between, here, entries, left, above, found, -, leads⟩ :=
    locate_of_below proper.segment root located
  obtain ⟨mode, directory⟩ := entriesAt_eq_ok.mp found
  refine ⟨entries.map Prod.fst, ?_, leads.mem_entries proper.busy proper.down found⟩
  exact list_eq_ok.mpr ⟨entries, mode, find_eq_ok.mpr ⟨here, above, directory⟩, rfl⟩

/-- What the directory lists is one of the card files. -/
lemma mem_of_lists (listed : fs.list c.root = .ok names) (lists : c.Lists fs names path) :
    ∃ paths, c.cardFiles fs = .ok paths ∧ path ∈ paths := by
  have found := cardFiles_eq_ok.mpr ⟨names, listed, rfl⟩
  obtain ⟨names', listed', member⟩ := mem_cardFiles found
  cases listed.symm.trans listed'
  exact ⟨_, found, (member path).mpr lists⟩

/-- A file below the root is listed with the entries. -/
lemma listed_of_direct (segment : Path.IsSegment name) (full : name ≠ "") (root : c.root ≠ "")
    (file : fs.isFile (c.directPath name) = true) :
    ∃ paths, c.cardFiles fs = .ok paths ∧ c.directPath name ∈ paths := by
  have proper := isName_cardFileName segment
  obtain ⟨there, content, mode, located, -⟩ := isFile_iff_located.mp file
  obtain ⟨names, listed, inside⟩ := list_of_locate proper root located
  have lists : c.Lists fs names (c.directPath name) :=
    .direct inside (extension?_eq_toml.mpr ⟨name, full, rfl⟩) (isDirectory_of_isFile file)
  exact mem_of_lists listed lists

/-- A segment that leads nowhere leaves the file below the root. -/
lemma direct_of_idle (segment : Path.IsSegment name) (idle : FileName.isIdle name = true)
    (root : c.root ≠ "") (file : fs.isFile (c.nestedPath name) = true) :
    fs.isFile (c.directPath name) = true := by
  have segment' := isSegment_cardFileName.mpr segment
  have below := Path.join_ne_empty segment root
  obtain ⟨there, content, mode, located, last⟩ := isFile_iff_located.mp file
  obtain ⟨checked, -, left, way⟩ := locate_eq_ok.mp located
  obtain ⟨between, mid, above, leads⟩ := (way_join segment' below).mp way
  obtain ⟨_, here, above, nowhere⟩ := (way_join segment root).mp above
  cases ((leads_idle idle).mp nowhere).2
  have full := FilePath.isEmpty_text.mpr (Path.join_ne_empty segment' root)
  have direct : fs.locate (c.directPath name) = .ok there :=
    locate_eq_ok.mpr ⟨checkPath_of_inner segment segment' root checked, full, left,
      (way_join segment' root).mpr ⟨_, _, above, leads⟩⟩
  exact isFile_iff_located.mpr ⟨there, content, mode, direct, last⟩

/-- A file in a directory below the root is listed with the entries. -/
lemma listed_of_nested (segment : Path.IsSegment name) (busy : Path.isIdle name = false)
    (down : name ≠ "..") (root : c.root ≠ "") (file : fs.isFile (c.nestedPath name) = true) :
    ∃ paths, c.cardFiles fs = .ok paths ∧ c.nestedPath name ∈ paths := by
  obtain ⟨there, content, mode, located, -⟩ := isFile_iff_located.mp file
  have proper : FileName.IsName name := ⟨segment, busy, fun up => down (FileName.text.inj up)⟩
  obtain ⟨_, mid, entries, _, above, directory, -, -⟩ := locate_of_below
    (isName_cardFileName segment).segment (Path.join_ne_empty segment root) located
  obtain ⟨names, listed, inside⟩ := list_of_locate proper root above
  obtain ⟨mode', directory⟩ := entriesAt_eq_ok.mp directory
  refine mem_of_lists listed (.nested inside ?_ file)
  exact isDirectory_iff_located.mpr ⟨mid, entries, mode', above, directory⟩

/-- The file that belongs to a name is listed, if the name is one segment and does not lead up. -/
lemma listed_of_fileOf? (segment : Path.IsSegment name) (full : name ≠ "") (down : name ≠ "..")
    (root : c.root ≠ "") (found : c.fileOf? fs name = some path) :
    ∃ paths, c.cardFiles fs = .ok paths ∧ path ∈ paths := by
  obtain ⟨file, place⟩ := isFile_of_fileOf? found
  rcases place with rfl | rfl
  · exact listed_of_direct segment full root file
  · cases busy : Path.isIdle name with
    | false => exact listed_of_nested segment busy down root file
    | true =>
      -- Without a directory of its own the name has one file only, which is listed below the root.
      have direct := direct_of_idle segment busy root file
      rw [fileOf?_eq, if_pos direct] at found
      rw [← Option.some.inj found]
      exact listed_of_direct segment full root direct

/-! ## Nothing else is read -/

/-- The catalog has the same card files, and the same texts are read from them. -/
structure Agree (c : Catalog) (fs fs' : Files) : Prop where
  listed : c.cardFiles fs' = c.cardFiles fs
  isFile : ∀ paths, c.cardFiles fs = .ok paths → ∀ path ∈ paths, fs'.isFile path = fs.isFile path
  read : ∀ paths, c.cardFiles fs = .ok paths → ∀ path ∈ paths, fs'.read path = fs.read path

/-- Agreement goes both ways. -/
lemma Agree.symm (agree : c.Agree fs fs') : c.Agree fs' fs where
  listed := agree.listed.symm
  isFile paths listed path member :=
    (agree.isFile paths (agree.listed.symm.trans listed) path member).symm
  read paths listed path member :=
    (agree.read paths (agree.listed.symm.trans listed) path member).symm

/-- The same card is read from a card file on which both agree. -/
lemma Agree.readCard (agree : c.Agree fs fs') (listed : c.cardFiles fs = .ok paths)
    (member : path ∈ paths) : readCard fs' path = readCard fs path := by
  rw [Catalog.readCard, Catalog.readCard, agree.read paths listed path member]

/-- The file of a confined name is the same. -/
lemma Agree.fileOf? (agree : c.Agree fs fs') (segment : Path.IsSegment name) (full : name ≠ "")
    (down : name ≠ "..") (root : c.root ≠ "") : c.fileOf? fs' name = c.fileOf? fs name := by
  have still {fs fs' : Files} {path : FilePath} (agree : c.Agree fs fs')
      (found : c.fileOf? fs name = some path) : fs'.isFile path = true := by
    obtain ⟨paths, listed, member⟩ := listed_of_fileOf? segment full down root found
    rw [agree.isFile paths listed path member]
    exact (isFile_of_fileOf? found).1
  have direct : fs'.isFile (c.directPath name) = fs.isFile (c.directPath name) := by
    refine Bool.eq_iff_iff.mpr ⟨fun file => still agree.symm ?_, fun file => still agree ?_⟩
    · rw [fileOf?_eq, if_pos file]
    · rw [fileOf?_eq, if_pos file]
  refine fileOf?_congr direct fun above => Bool.eq_iff_iff.mpr ⟨fun file => ?_, fun file => ?_⟩
  · have found : c.fileOf? fs' name = some (c.nestedPath name) := by
      rw [fileOf?_eq, direct, above, if_neg Bool.false_ne_true, if_pos file]
    exact still agree.symm found
  · have found : c.fileOf? fs name = some (c.nestedPath name) := by
      rw [fileOf?_eq, above, if_neg Bool.false_ne_true, if_pos file]
    exact still agree found

/-- A search goes by what is read from the paths. -/
lemma search_congr (same : ∀ path ∈ paths, readCard fs' path = readCard fs path) :
    search fs' spec paths = search fs spec paths := by
  induction paths with
  | nil => rfl
  | cons path paths ih =>
    obtain ⟨first, rest⟩ := List.forall_mem_cons.mp same
    rw [search, search, first, ih rest]

/-- What a search finds was read from one of the paths. -/
lemma mem_of_search (found : search fs spec paths = .ok card) :
    ∃ path ∈ paths, readCard fs path = .ok card := by
  induction paths with
  | nil => cases found
  | cons path paths ih =>
    have further (found : search fs spec paths = .ok card) :
        ∃ path' ∈ path :: paths, readCard fs path' = .ok card := by
      obtain ⟨path', member, read⟩ := ih found
      exact ⟨path', List.mem_cons_of_mem _ member, read⟩
    rw [search] at found
    cases read : readCard fs path with
    | error fault =>
      simp only [read] at found
      exact further found
    | ok first =>
      simp only [read] at found
      split_ifs at found
      · cases found
        exact ⟨path, List.mem_cons_self, read⟩
      · exact further found

/-- Where no file has the name, the card files are searched, unless the name asks for the file. -/
lemma load_of_no_file (absent : spec.fileName?.bind (c.fileOf? fs) = none) :
    c.load fs spec = .error (.notFound (.card spec)) ∨
      c.load fs spec = c.cardFiles fs >>= search fs spec := by
  unfold load
  rw [absent]
  cases spec with
  | strict => exact .inl rfl
  | named | index | identifier => exact .inr rfl

/-- A card name that was read has characters. -/
lemma fileName?_of_parse {text : String} (parsed : CardName.parse text = .ok spec)
    (named : spec.fileName? = some name) : name ≠ "" := by
  rintro rfl
  have empty : spec.isEmpty = true := by
    cases spec <;> cases named <;> rfl
  rw [CardName.parse, CardName.ofText?] at parsed
  split_ifs at parsed with refused
  cases parsed
  exact refused empty

/-- The file of the name that a card name asks for is listed. -/
lemma listed_of_fileName? {text : String} (root : c.root ≠ "")
    (parsed : CardName.parse text = .ok spec)
    (confined : ∀ name, spec.fileName? = some name → Path.IsSegment name ∧ name ≠ "..")
    (found : spec.fileName?.bind (c.fileOf? fs) = some path) :
    ∃ paths, c.cardFiles fs = .ok paths ∧ path ∈ paths := by
  obtain ⟨name, named, found⟩ := Option.bind_eq_some_iff.mp found
  obtain ⟨segment, down⟩ := confined name named
  exact listed_of_fileOf? segment (fileName?_of_parse parsed named) down root found

/-- The file of the name is the same in both, if there is a name. -/
lemma Agree.fileName? {text : String} (agree : c.Agree fs fs') (root : c.root ≠ "")
    (parsed : CardName.parse text = .ok spec)
    (confined : ∀ name, spec.fileName? = some name → Path.IsSegment name ∧ name ≠ "..") :
    spec.fileName?.bind (c.fileOf? fs') = spec.fileName?.bind (c.fileOf? fs) := by
  cases named : spec.fileName? with
  | none => rfl
  | some name =>
    obtain ⟨segment, down⟩ := confined name named
    exact agree.fileOf? segment (fileName?_of_parse parsed named) down root

/-- A card whose name is no path, or whose index or identifier is given, is read from one of the
listed card files, which are `NAME.toml` and `NAME/NAME.toml` in the directory of the catalog; so
the list of cards has it. Which card it is, or why there is none, depends on these files alone. -/
theorem load_confined {text : String} (proper : fs.Named) (root : c.root ≠ "")
    (parsed : CardName.parse text = .ok spec)
    (confined : ∀ name, spec.fileName? = some name → Path.IsSegment name ∧ name ≠ "..") :
    (∀ card, c.load fs spec = .ok card →
      ∃ paths path entries, c.cardFiles fs = .ok paths ∧ path ∈ paths ∧
        readCard fs path = .ok card ∧ c.CardPath path ∧
        c.cards fs = .ok entries ∧ ⟨card.info.name, card.info.comment⟩ ∈ entries) ∧
    ∀ fs', c.Agree fs fs' → c.load fs' spec = c.load fs spec := by
  constructor
  · intro card loaded
    have read : ∃ paths path, c.cardFiles fs = .ok paths ∧ path ∈ paths ∧
        readCard fs path = .ok card := by
      cases found : spec.fileName?.bind (c.fileOf? fs) with
      | some path =>
        obtain ⟨paths, listed, member⟩ := listed_of_fileName? root parsed confined found
        refine ⟨paths, path, listed, member, ?_⟩
        unfold load at loaded
        rw [found] at loaded
        exact loaded
      | none =>
        -- A card that no file is named for is searched for, and this is done in the listed files.
        rcases load_of_no_file found with refused | searched
        · cases refused.symm.trans loaded
        · rw [searched, bind_eq_ok] at loaded
          obtain ⟨paths, listed, loaded⟩ := loaded
          obtain ⟨path, member, read⟩ := mem_of_search loaded
          exact ⟨paths, path, listed, member, read⟩
    obtain ⟨paths, path, listed, member, read⟩ := read
    obtain ⟨names, inside, lists⟩ := mem_cardFiles listed
    have place := ((lists path).mp member).cardPath fun name => proper.isName inside
    obtain ⟨entries, found⟩ : ∃ entries, c.cards fs = .ok entries :=
      ⟨_, cards_eq_ok.mpr ⟨paths, listed, rfl⟩⟩
    refine ⟨paths, path, entries, listed, member, read, place, found, ?_⟩
    exact (mem_cards found listed _).mpr ⟨path, member, card, read, rfl⟩
  · intro fs' agree
    refine load_congr (agree.fileName? root parsed confined) (fun path found => ?_) ?_
    · obtain ⟨paths, listed, member⟩ := listed_of_fileName? root parsed confined found
      exact agree.readCard listed member
    · rw [agree.listed]
      cases listed : c.cardFiles fs with
      | error fault => rfl
      | ok paths => exact search_congr fun path => agree.readCard listed

/-- The files of `shelf` and one beside the directory of the catalog. -/
def annex : Files :=
  { shelf with entries := ("outside.toml", shelf.blank) :: shelf.entries }

/-- A file beside the root leaves the card files as they are. -/
lemma agree_annex : (⟨"cfg"⟩ : Catalog).Agree shelf annex := by
  refine ⟨by decide +kernel, fun paths listed => ?_, fun paths listed => ?_⟩
  · cases cardFiles_shelf.symm.trans listed
    decide +kernel
  · cases cardFiles_shelf.symm.trans listed
    decide +kernel

/-- The name `x` opens what is in the directory, whatever lies beside it. -/
theorem load_confined_of_shelf :
    (∃ paths, (⟨"cfg"⟩ : Catalog).cardFiles shelf = .ok paths ∧
      ∃ path ∈ paths, readCard shelf path = .ok (bare "x" "cfg/x.toml")) ∧
    (⟨"cfg"⟩ : Catalog).load annex (.named "x") = .ok (bare "x" "cfg/x.toml") := by
  have confined : ∀ name, (CardName.named "x").fileName? = some name →
      Path.IsSegment name ∧ name ≠ ".." := by
    rintro _ ⟨⟩
    decide
  have parsed : CardName.parse "x" = .ok (.named "x") := rfl
  have opened := load_confined (c := ⟨"cfg"⟩) shelf_named (by decide) parsed confined
  have loaded : (⟨"cfg"⟩ : Catalog).load shelf (.named "x") = .ok (bare "x" "cfg/x.toml") := by
    decide +kernel
  obtain ⟨paths, path, -, listed, member, read, -⟩ := opened.1 _ loaded
  exact ⟨⟨paths, listed, path, member, read⟩, (opened.2 annex agree_annex).trans loaded⟩

/-- A name that leads up opens a file that is not in the directory and that the list of cards does
not have. -/
theorem load_outside :
    CardName.parse "../outside" = .ok (.named "../outside") ∧
    (⟨"cfg"⟩ : Catalog).load annex (.named "../outside") =
      .ok (bare "outside" "cfg/../outside.toml") ∧
    (⟨"cfg"⟩ : Catalog).load shelf (.named "../outside") =
      .error (.notFound (.card (.named "../outside"))) ∧
    (∀ paths, (⟨"cfg"⟩ : Catalog).cardFiles annex = .ok paths → ∀ path ∈ paths,
      readCard annex path ≠ .ok (bare "outside" "cfg/../outside.toml")) ∧
    ∀ entries, (⟨"cfg"⟩ : Catalog).cards annex = .ok entries → ⟨"outside", none⟩ ∉ entries := by
  have four : (⟨"cfg"⟩ : Catalog).cardFiles annex =
      .ok ["cfg/a.b.toml", "cfg/n.toml/n.toml.toml", "cfg/x/x.toml", "cfg/x.toml"] := by
    decide +kernel
  have entries : (⟨"cfg"⟩ : Catalog).cards annex =
      .ok [⟨"a.b", none⟩, ⟨"n.toml", none⟩, ⟨"x", none⟩, ⟨"x", none⟩] := by
    decide +kernel
  refine ⟨rfl, by decide +kernel, by decide +kernel, ?_, ?_⟩
  · intro paths listed
    cases four.symm.trans listed
    decide +kernel
  · intro found listed
    cases entries.symm.trans listed
    decide

end Catalog

end UseCase
