import UseCase.Shell.Script

/-!
# Patterns

Patterns for file names and for words: an asterisk stands for any bytes, a question mark for one,
and brackets for one of a set. Protected characters stand for themselves.
-/

namespace UseCase.Shell

open Text (Bytes)

/-- A character of a word after all expansions, and whether it is protected. -/
structure Mark where
  char : Char
  isProtected : Bool
  deriving DecidableEq, Repr

/-- The characters of marks. -/
def plainText (ms : List Mark) : Bytes :=
  ms.map Mark.char

/-- A class of bytes by its name. -/
def classOf? (name : String) : Option (Char → Bool) :=
  match name with
  | "alpha" => some Char.isAlpha
  | "digit" => some Char.isDigit
  | "alnum" => some Char.isAlphanum
  | "upper" => some Char.isUpper
  | "lower" => some Char.isLower
  | "space" => some fun c => c == ' ' || (9 ≤ c.toNat && c.toNat ≤ 13)
  | "blank" => some fun c => c == ' ' || c == '\t'
  | "punct" => some fun c => 0x20 < c.toNat && c.toNat < 0x7F && !c.isAlphanum
  | "print" => some fun c => 0x20 ≤ c.toNat && c.toNat < 0x7F
  | "graph" => some fun c => 0x20 < c.toNat && c.toNat < 0x7F
  | "cntrl" => some fun c => c.toNat < 0x20 || c.toNat == 0x7F
  | "xdigit" => some fun c => c.isDigit || ('a' ≤ c && c ≤ 'f') || ('A' ≤ c && c ≤ 'F')
  | _ => none

/-- A member of a set in brackets. -/
inductive Member where
  | range (low high : Char)
  | named (name : String)
  deriving DecidableEq, Repr

/-- Whether a byte belongs to a member. -/
def Member.holds : Member → Char → Bool
  | range low high, c => low ≤ c && c ≤ high
  | named name, c => ((classOf? name).map fun holds => holds c).getD false

/-- A part of a pattern. -/
inductive Element where
  | char (c : Char)
  | one
  | many
  | set (negated : Bool) (members : List Member)
  deriving DecidableEq, Repr

/-- Whether a part stands for a byte. -/
def Element.holds : Element → Char → Bool
  | .char d, c => c == d
  | .one, _ => true
  | .many, _ => false
  | .set negated members, c => members.any (fun m => m.holds c) != negated

/-- A pattern. -/
abbrev Pattern := List Element

namespace Pattern

/-- The name of a class at the front, up to the colon and bracket that end it. -/
def className? (ms : List Mark) : Option (String × List Mark) :=
  match ms with
  | a :: b :: rest =>
    if a.char = '[' ∧ !a.isProtected ∧ b.char = ':' then
      let name := rest.takeWhile fun m => m.char.isAlpha
      match rest.dropWhile fun m => m.char.isAlpha with
      | c :: d :: rest =>
        if c.char = ':' ∧ d.char = ']' then some (String.ofList (plainText name), rest) else none
      | _ => none
    else none
  | _ => none

/-- The members of a set up to its closing bracket, which is a member itself at the front. -/
def members? (isFirst : Bool) : (fuel : Nat) → List Mark → Option (List Member × List Mark)
  | 0, _ | _, [] => none
  | fuel + 1, m :: rest =>
    if m.char = ']' ∧ !m.isProtected ∧ !isFirst then some ([], rest)
    else
      let (member, rest) := match className? (m :: rest) with
        | some (name, rest) => (Member.named name, rest)
        | none =>
          match rest with
          | dash :: high :: after =>
            if dash.char = '-' ∧ !dash.isProtected ∧ (high.char ≠ ']' ∨ high.isProtected) then
              (.range m.char high.char, after)
            else (.range m.char m.char, rest)
          | _ => (.range m.char m.char, rest)
      (members? false fuel rest).map fun (more, rest) => (member :: more, rest)

/-- The set whose opening bracket stands in front of these marks. -/
def set? (ms : List Mark) : Option (Element × List Mark) :=
  let negated := ms.head?.any fun m => m.char == '!' && !m.isProtected
  let inner := if negated then ms.drop 1 else ms
  (members? true (inner.length + 1) inner).map fun (members, rest) => (.set negated members, rest)

/-- The pattern of marks, at most `fuel` parts of it. -/
def ofMarksUpTo : (fuel : Nat) → List Mark → Pattern
  | 0, _ | _, [] => []
  | fuel + 1, m :: rest =>
    if m.isProtected then .char m.char :: ofMarksUpTo fuel rest
    else if m.char = '*' then .many :: ofMarksUpTo fuel rest
    else if m.char = '?' then .one :: ofMarksUpTo fuel rest
    else if m.char = '[' then
      match set? rest with
      | some (set, rest) => set :: ofMarksUpTo fuel rest
      | none => .char '[' :: ofMarksUpTo fuel rest
    else .char m.char :: ofMarksUpTo fuel rest

/-- The pattern of marks. -/
def ofMarks (ms : List Mark) : Pattern :=
  ofMarksUpTo ms.length ms

/-- Whether a pattern stands for more than one text. -/
def isOpen (p : Pattern) : Bool :=
  p.any fun
    | .char _ => false
    | _ => true

/-- Whether the rest of a pattern matches some end of a text. -/
def matchAny (rest : Bytes → Bool) : Bytes → Bool
  | [] => rest []
  | c :: cs => rest (c :: cs) || matchAny rest cs

/-- Whether a pattern matches a whole text. -/
def isMatch : Pattern → Bytes → Bool
  | [], cs => cs.isEmpty
  | .many :: p, cs => matchAny (isMatch p) cs
  | e :: p, c :: cs => e.holds c && isMatch p cs
  | _ :: _, [] => false

/-- A text without the part that a pattern matches; as it is if the pattern matches none. Zero bytes
end what a pattern is compared with, and also a search that goes forward. -/
def trim (p : Pattern) (how : Trim) (cs : Bytes) : Bytes :=
  let first := fun (cs : Bytes) => cs.takeWhile (· != '\x00')
  let forward := List.range ((first cs).length + 1)
  let backward := (List.range (cs.length + 1)).reverse
  let counts := if how.longest == how.fromEnd then forward else backward
  let part := fun (n : Nat) => first (if how.fromEnd then cs.drop n else cs.take n)
  match counts.find? fun n => p.isMatch (part n) with
  | some n => if how.fromEnd then cs.take n else cs.drop n
  | none => cs

end Pattern

end UseCase.Shell
