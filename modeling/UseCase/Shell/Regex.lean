import UseCase.Shell.Pattern
import UseCase.Text.Numeral

/-!
# Regular expressions

Basic and extended regular expressions over bytes, with groups, references to them, and bounds for
repetition. Of all matches that start at the earliest place the longest one counts.
-/

namespace UseCase.Shell

open Text (Bytes)

/-- A regular expression. -/
inductive Regex where
  | empty
  | char (c : Char)
  | any
  | set (negated : Bool) (members : List Member)
  | start
  | finish
  | group (number : Nat) (r : Regex)
  | reference (number : Nat)
  | append (a b : Regex)
  | either (a b : Regex)
  | repeated (least : Nat) (most : Option Nat) (r : Regex)

namespace Regex

/-- How expressions are written. -/
structure Form where
  /-- Whether marks have their meaning without a backslash. -/
  extended : Bool
  ignoresCase : Bool

/-- A place in a text: what lies before it, in reverse, and after it, and the groups so far. -/
structure Place where
  before : Bytes
  rest : Bytes
  groups : List (Nat × Bytes)

/-- The place after some bytes. -/
def Place.move (p : Place) (count : Nat) : Place :=
  { p with before := (p.rest.take count).reverse ++ p.before, rest := p.rest.drop count }

/-- The bytes between two places. -/
def between (p q : Place) : Bytes :=
  p.rest.take (p.rest.length - q.rest.length)

/-- A byte in a form that is the same for both cases of a letter. -/
def fold (n : Form) (c : Char) : Char :=
  if n.ignoresCase then c.toLower else c

/-- The place after one byte with a property. -/
def step (holds : Char → Bool) (p : Place) : List Place :=
  match p.rest with
  | c :: _ => if holds c then [p.move 1] else []
  | [] => []

/-- The places after further rounds, longer ways first; a round has to move on. -/
def rounds (next : Place → List Place) : (fuel least : Nat) → Option Nat → Place → List Place
  | 0, least, _, p => if least = 0 then [p] else []
  | fuel + 1, least, most, p =>
    let here := if least = 0 then [p] else []
    if most = some 0 then here
    else
      let further := (next p).flatMap fun q =>
        if q.rest.length = p.rest.length ∧ least = 0 then []
        else rounds next fuel (least - 1) (most.map (· - 1)) q
      further ++ here

/-- The places at which a match that starts at a place can end. -/
def ends (n : Form) : Regex → Place → List Place
  | empty, p => [p]
  | char c, p => step (fun d => fold n c == fold n d) p
  | any, p => step (fun _ => true) p
  | set negated members, p =>
    let holds := fun (c : Char) => members.any fun m => m.holds c
    step (fun c =>
      (holds c || (n.ignoresCase && (holds c.toLower || holds c.toUpper))) != negated) p
  | start, p => if p.before.isEmpty then [p] else []
  | finish, p => if p.rest.isEmpty then [p] else []
  | group number r, p => (ends n r p).map fun q =>
    { q with groups := (number, between p q) :: q.groups.filter fun (k, _) => k != number }
  | reference number, p =>
    let cs := ((p.groups.find? fun (k, _) => k == number).map Prod.snd).getD []
    if p.rest.take cs.length == cs then [p.move cs.length] else []
  | append a b, p => (ends n a p).flatMap (ends n b)
  | either a b, p => ends n a p ++ ends n b p
  | repeated least most r, p => rounds (ends n r) (p.rest.length + least + 1) least most p

/-- The longest of some ways, the first of them if there are several. -/
def longest : List Place → Option Place
  | [] => none
  | p :: rest =>
    match longest rest with
    | some q => if q.rest.length < p.rest.length then some q else some p
    | none => some p

/-- A match: the place where it starts and the one where it ends. -/
def search? (n : Form) (r : Regex) : (fuel : Nat) → Place → Option (Place × Place)
  | 0, p => (longest (ends n r p)).map fun q => (p, q)
  | fuel + 1, p =>
    match longest (ends n r p) with
    | some q => some (p, q)
    | none => if p.rest.isEmpty then none else search? n r fuel (p.move 1)

/-- The first match at or after a place in a text. -/
def find? (n : Form) (r : Regex) (p : Place) : Option (Place × Place) :=
  search? n r p.rest.length p

/-- The start of a text. -/
def Place.ofText (cs : Bytes) : Place := ⟨[], cs, []⟩

/-- Whether a text has a match. -/
def isIn (n : Form) (r : Regex) (cs : Bytes) : Bool :=
  (find? n r (.ofText cs)).isSome

/-- The rest of an expression that is being read, and the number of its groups. -/
structure Reading where
  rest : Bytes
  groups : Nat

/-- A set in brackets, after the opening one. -/
def bracket? (cs : Bytes) : Option (Regex × Bytes) :=
  let negated := cs.head? == some '^'
  let inner := if negated then cs.drop 1 else cs
  (Pattern.members? true (inner.length + 1) (inner.map fun c => ⟨c, false⟩)).map
    fun (members, rest) => (.set negated members, plainText rest)

/-- The bounds of a repetition, after the opening brace. -/
def bounds? (n : Form) (cs : Bytes) : Option ((Nat × Option Nat) × Bytes) := do
  let number := fun (cs : Bytes) => Text.digits? (cs.takeWhile Char.isDigit)
  let least := (number cs).getD 0
  let rest := cs.dropWhile Char.isDigit
  let (most, rest) := match rest with
    | ',' :: rest => (number rest, rest.dropWhile Char.isDigit)
    | rest => (some least, rest)
  match n.extended, rest with
  | true, '\x7d' :: rest => return ((least, most), rest)
  | false, '\\' :: '\x7d' :: rest => return ((least, most), rest)
  | _, _ => none

/-- A mark of an expression, told apart from a byte that stands for itself. -/
inductive Sign where
  | mark (c : Char)
  | plain (c : Char)

/-- The next sign of an expression. -/
def sign? (n : Form) (cs : Bytes) : Option (Sign × Bytes) :=
  match cs with
  | [] => none
  | '\\' :: c :: rest =>
    if "()\x7b\x7d+?|".toList.contains c then
      some (if n.extended then .plain c else .mark c, rest)
    else if c.isDigit && c != '0' then some (.mark c, rest)
    else if c = 'n' then some (.plain '\n', rest)
    else if c = 't' then some (.plain '\t', rest)
    else some (.plain c, rest)
  | c :: rest =>
    let isMark := ".[*^$".toList.contains c ||
      (n.extended && "()\x7b+?|".toList.contains c)
    some (if isMark then .mark c else .plain c, rest)

/-- Reads signs of repetition behind an expression. -/
def repetitions (n : Form) : (fuel : Nat) → Regex → Reading → Regex × Reading
  | 0, r, s => (r, s)
  | fuel + 1, r, s =>
    match sign? n s.rest with
    | some (.mark '*', rest) =>
      repetitions n fuel (.repeated 0 none r) { s with rest := rest }
    | some (.mark '+', rest) =>
      repetitions n fuel (.repeated 1 none r) { s with rest := rest }
    | some (.mark '?', rest) =>
      repetitions n fuel (.repeated 0 (some 1) r) { s with rest := rest }
    | some (.mark '\x7b', rest) =>
      match bounds? n rest with
      | some ((least, most), rest) =>
        repetitions n fuel (.repeated least most r) { s with rest := rest }
      | none => (r, s)
    | _ => (r, s)

/-- A reader of expressions. -/
abbrev Reader := Reading → Option (Regex × Reading)

/-- Reads one part; a group is read by `whole`. `isFirst` tells that the part starts a branch. -/
def part? (n : Form) (whole : Reader) (isFirst : Bool) : Reader := fun s => do
  let (sign, rest) ← sign? n s.rest
  let s' := { s with rest := rest }
  let endsBranch := fun (cs : Bytes) => match sign? n cs with
    | none | some (.mark ')', _) | some (.mark '|', _) => true
    | _ => false
  match sign with
  | .plain c => return (.char c, s')
  | .mark '.' => return (.any, s')
  | .mark '[' =>
    match bracket? rest with
    | some (r, rest) => return (r, { s with rest := rest })
    | none => none
  | .mark '^' => return (if n.extended || isFirst then .start else .char '^', s')
  | .mark '$' => return (if n.extended || endsBranch rest then .finish else .char '$', s')
  | .mark '*' => if isFirst then return (.char '*', s') else none
  | .mark '(' =>
    let number := s.groups + 1
    let (r, s) ← whole { rest := rest, groups := number }
    match sign? n s.rest with
    | some (.mark ')', rest) => return (.group number r, { s with rest := rest })
    | _ => none
  | .mark c =>
    if c.isDigit then return (.reference (c.toNat - '0'.toNat), s')
    else return (.char c, s')

/-- Reads the parts of a branch. -/
def branch? (n : Form) (whole : Reader) : (fuel : Nat) → (isFirst : Bool) → Reader
  | 0, _, s => some (.empty, s)
  | fuel + 1, isFirst, s =>
    match sign? n s.rest with
    | none | some (.mark ')', _) | some (.mark '|', _) => some (.empty, s)
    | _ => do
      let (r, s) ← part? n whole isFirst s
      let (r, s) := match r with
        | .start => (r, s)
        | r => repetitions n (s.rest.length + 1) r s
      let isStart := match r with
        | .start => true
        | _ => false
      let (more, s) ← branch? n whole fuel isStart s
      return (.append r more, s)

/-- Reads branches with bars between them. -/
def branches? (n : Form) (whole : Reader) : (fuel : Nat) → Reader
  | 0, _ => none
  | fuel + 1, s => do
    let (first, s) ← branch? n whole (s.rest.length + 1) true s
    match sign? n s.rest with
    | some (.mark '|', rest) =>
      let (second, s) ← branches? n whole fuel { s with rest := rest }
      return (.either first second, s)
    | _ => return (first, s)

/-- Reads an expression whose groups nest at most `depth` deep. -/
def read? (n : Form) : (depth : Nat) → Reader
  | 0, _ => none
  | depth + 1, s => branches? n (read? n depth) (s.rest.length + 1) s

/-- Reads an expression. -/
def ofText? (n : Form) (cs : Bytes) : Option Regex :=
  match read? n 100 ⟨cs, 0⟩ with
  | some (r, s) => if s.rest.isEmpty then some r else none
  | none => none

end Regex

end UseCase.Shell
