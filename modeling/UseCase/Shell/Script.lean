import UseCase.Text.Bytes

/-!
# Scripts

The commands that a shell reads from a text, and the words that they consist of. Words keep what
protects their characters, since it decides what becomes of them when the command is run. All texts
are bytes. The body of a here-document is kept apart, under a number, because it follows the line on
which its command stands.
-/

namespace UseCase.Shell

open Text (Bytes)

/-- Which part of a value a pattern takes away. -/
structure Trim where
  fromEnd : Bool
  longest : Bool
  deriving DecidableEq, Repr

/-- What is done about a parameter that is not set or, with a colon, empty. -/
inductive Fallback where
  /-- Another value is taken. -/
  | value
  /-- Another value is taken and assigned. -/
  | assign
  /-- The shell ends with a message. -/
  | complain
  /-- Another value is taken if the parameter is set. -/
  | instead
  deriving DecidableEq, Repr

/-- How a redirection uses a file. -/
inductive Access where
  | read
  /-- Written from its start; it may be one that must not be there yet. -/
  | write
  | overwrite
  | append
  | both
  deriving DecidableEq, Repr

mutual

/-- A part of a word. -/
inductive Piece where
  /-- A character without protection. -/
  | bare (c : Char)
  /-- Protected characters. -/
  | quoted (cs : Bytes)
  /-- What stands between quotation marks. -/
  | quotes (inner : List Piece)
  | parameter (name : Bytes) (use : Use)
  /-- What a command prints. -/
  | output (c : Command)
  | arithmetic (inner : List Piece)

/-- What is taken of a parameter. -/
inductive Use where
  | value
  | length
  | fallback (how : Fallback) (colon : Bool) (word : List Piece)
  | trim (how : Trim) (pattern : List Piece)
  /-- Something that no shell understands. -/
  | unknown

/-- A redirection of a channel. -/
inductive Redirect where
  | file (channel : Nat) (access : Access) (path : List Piece)
  /-- To another channel, or to none for a dash. -/
  | channel (channel : Nat) (other : List Piece)
  /-- From the here-document with a number. -/
  | document (channel : Nat) (number : Nat)

/-- A variable with the word for its value. -/
inductive Assignment where
  | mk (name : Bytes) (value : List Piece)

/-- A list of patterns and the command for words that one of them matches. -/
inductive Arm where
  | mk (patterns : List (List Piece)) (body : Command)

/-- A command. -/
inductive Command where
  | nothing
  /-- A simple command and the line on which it starts. -/
  | simple (line : Nat) (assignments : List Assignment) (words : List (List Piece))
    (redirects : List Redirect)
  | pipeline (parts : List Command)
  | negate (c : Command)
  | sequence (first second : Command)
  | both (first second : Command)
  | either (first second : Command)
  | background (c : Command)
  | subshell (c : Command)
  | redirected (c : Command) (redirects : List Redirect)
  | branch (condition yes no : Command)
  /-- A loop that runs as long as its condition succeeds or, with `negated`, fails. -/
  | loop (negated : Bool) (condition body : Command)
  /-- A loop over words, or over the arguments if none are given. -/
  | each (name : Bytes) (words : Option (List (List Piece))) (body : Command)
  | choice (subject : List Piece) (arms : List Arm)
  | define (name : Bytes) (body : Command)

end

/-- A word. -/
abbrev Word := List Piece

/-- A character that may start a name. -/
def isNameStart (c : Char) : Bool :=
  c.isAlpha || c == '_'

/-- A character that may stand in a name. -/
def isNameChar (c : Char) : Bool :=
  c.isAlphanum || c == '_'

/-- Whether a text is the name of a variable. -/
def isName (cs : Bytes) : Bool :=
  cs.head?.any isNameStart && cs.all isNameChar

/-- The name in front of an equals sign, and what follows the sign. -/
def cutAssignment? (cs : Bytes) : Option (Bytes × Bytes) :=
  match cs.dropWhile isNameChar with
  | '=' :: value =>
    let name := cs.takeWhile isNameChar
    if isName name then some (name, value) else none
  | _ => none

namespace Word

/-- The characters of a word without any protection. -/
def bare? : Word → Option Bytes
  | [] => some []
  | .bare c :: rest => (bare? rest).map (c :: ·)
  | _ => none

/-- The bare characters at the front of a word, and what follows them. -/
def cutBare : Word → Bytes × Word
  | .bare c :: rest =>
    let (front, back) := cutBare rest
    (c :: front, back)
  | pieces => ([], pieces)

/-- The variable and the word that an assignment consists of. -/
def assignment? (w : Word) : Option (Bytes × Word) :=
  let (front, back) := cutBare w
  (cutAssignment? front).map fun (name, value) => (name, value.map .bare ++ back)

/-- The characters of a word that ends a here-document. -/
def delimiter : Word → Bytes
  | [] => []
  | .bare c :: rest => c :: delimiter rest
  | .quoted cs :: rest => cs ++ delimiter rest
  | .quotes inner :: rest =>
    (inner.flatMap fun
      | .quoted cs => cs
      | _ => []) ++ delimiter rest
  | _ :: rest => delimiter rest

/-- Whether nothing in a word is protected. -/
def isBare (w : Word) : Bool :=
  w.all fun
    | .quoted _ | .quotes _ => false
    | _ => true

end Word

/-- Whether the first thing that a command does is a pause. -/
def Command.pauses : Command → Bool
  | .simple _ _ (name :: time :: _) _ =>
    Word.bare? name == some "sleep".toList &&
      ((Word.bare? time).getD []).any fun c => '1' ≤ c && c ≤ '9'
  | .sequence c _ | .both c _ | .either c _ | .subshell c | .redirected c _ | .negate c => c.pauses
  | .pipeline (c :: _) => c.pauses
  | _ => false

end UseCase.Shell
