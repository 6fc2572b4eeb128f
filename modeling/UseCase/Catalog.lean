import UseCase.CardFile
import UseCase.Files
import UseCase.Loader

/-!
# Catalogs

A catalog is a directory of card files. The card `NAME` lies in `NAME.toml` or in `NAME/NAME.toml`.
A name selects the card of that file or, failing that, the first card in the order of the paths
whose driver or long name it is; files that cannot be read are passed over in that search, and in
the list of cards.
-/

namespace UseCase

/-- The catalog in a directory. -/
structure Catalog where
  root : String

/-- Whether a card file with this stem, for this card, is selected. Drivers and long names are
compared without regard to the case of ASCII letters. -/
def CardName.selects (name : CardName) (stem : String) (info : CardInfo) : Bool :=
  let fold := fun text : String => text.toList.map Char.toLower
  match name with
  | .named n =>
    stem == n || [info.driver, info.longName].any fun field => field.map fold == some (fold n)
  | .strict n => stem == n
  | .index i => info.index == some i
  | .identifier id => info.id == some id

/-- The file name that is tried before any search. -/
def CardName.fileName? : CardName → Option String
  | named n | strict n => some n
  | index _ | identifier _ => none

namespace Catalog

/-- The name of the file of a card. -/
def cardFileName (name : String) : String :=
  name ++ ".toml"

/-- The file of a card directly below the root. -/
def directPath (c : Catalog) (name : String) : FilePath :=
  Path.join c.root (cardFileName name)

/-- The file of a card in a directory of its own. -/
def nestedPath (c : Catalog) (name : String) : FilePath :=
  Path.join (Path.join c.root name) (cardFileName name)

/-- The file of a card by its name. -/
def fileOf? (c : Catalog) (fs : Files) (name : String) : Option FilePath :=
  [c.directPath name, c.nestedPath name].find? fs.isFile

/-- Reads the card of a file; without a name of its own it has the stem of the file's name. -/
def readCard (fs : Files) (path : FilePath) : Except Fault Card := do
  let text ← (fs.read path).mapError .system
  Card.ofText text path.stem (some path.shown)

/-- Where a card file lies below the root: it is an entry, or it is in the directory of this name. -/
inductive Spot where
  | direct (name : FileName)
  | nested (name : String)
  deriving DecidableEq, Repr

/-- The names that lead from the root to a card file. -/
def Spot.names : Spot → List FileName
  | direct name => [name]
  | nested name => [name, cardFileName name]

/-- Whether one card file comes before another: they are ordered by the names that lead to them. -/
def Spot.before (spot other : Spot) : Bool :=
  Text.lexicographic FileName.before spot.names other.names

/-- The path of a card file. -/
def pathAt (c : Catalog) : Spot → FilePath
  | .direct name => .below c.root name
  | .nested name => c.nestedPath name

/-- The card file that an entry of the root is or holds. A directory whose name is no text holds
none; whatever else has the extension is one. -/
def cardFileAt? (c : Catalog) (fs : Files) (name : FileName) : Option Spot :=
  if fs.isDirectory (.below c.root name) then
    match name with
    | .text name => if fs.isFile (c.nestedPath name) then some (.nested name) else none
    | .foreign _ => none
  else if name.extension? = some "toml" then some (.direct name)
  else none

/-- Puts a card file before the first one that is greater. -/
def place (spot : Spot) : List Spot → List Spot
  | [] => [spot]
  | other :: rest =>
    if spot.before other then spot :: other :: rest else other :: place spot rest

/-- Card files in ascending order. -/
def sort : List Spot → List Spot
  | [] => []
  | spot :: rest => place spot (sort rest)

/-- The card files, ordered by the names on their paths. -/
def cardFiles (c : Catalog) (fs : Files) : Except Fault (List FilePath) := do
  let names ← (fs.list c.root).mapError .system
  return (sort (names.filterMap (c.cardFileAt? fs))).map c.pathAt

/-- The first card among these files that a name selects. -/
def search (fs : Files) (name : CardName) : List FilePath → Except Fault Card
  | [] => .error (.notFound (.card name))
  | path :: rest =>
    match readCard fs path with
    | .ok card => if name.selects path.stem card.info then .ok card else search fs name rest
    | .error _ => search fs name rest

/-- The card that a name selects. A file of exactly that name decides, also if it is no valid card
file. -/
def load (c : Catalog) (fs : Files) (name : CardName) : Except Fault Card :=
  match name.fileName?.bind (c.fileOf? fs), name with
  | some path, _ => readCard fs path
  | none, .strict _ => .error (.notFound (.card name))
  | none, _ => do search fs name (← c.cardFiles fs)

/-- The cards of all files that can be read. -/
def cards (c : Catalog) (fs : Files) : Except Fault (List Entry) := do
  let paths ← c.cardFiles fs
  return paths.filterMap fun path =>
    match readCard fs path with
    | .ok card => some ⟨card.info.name, card.info.comment⟩
    | .error _ => none

/-- The catalog as a source of card descriptions. -/
def loader (c : Catalog) : Loader Files where
  load name := fun fs => match c.load fs name with
    | .ok card => .ok card fs
    | .error fault => .error fault fs
  cards := fun fs => match c.cards fs with
    | .ok entries => .ok entries fs
    | .error fault => .error fault fs

end Catalog

/-- The variables of the environment. -/
abbrev Environment := List (String × String)

namespace Environment

/-- The value of a variable that is set and not empty. -/
def get? (env : Environment) (name : String) : Option String :=
  ((env.find? fun (n, _) => n == name).map Prod.snd).filter fun value => !value.isEmpty

/-- The directory for the configuration of programs. -/
def configHome? (env : Environment) : Option String :=
  ((env.get? "XDG_CONFIG_HOME").filter Path.isAbsolute).or
    ((env.get? "HOME").map fun home => Path.join home ".config")

/-- The catalog that is used unless another is named. -/
def catalog (env : Environment) : Except Fault Catalog :=
  match (env.get? "UCM_CONFIG_DIR").or (env.configHome?.map fun home => Path.join home "ucm") with
  | some root => .ok ⟨root⟩
  | none => .error (.configuration .noConfigDirectory)

end Environment

end UseCase
