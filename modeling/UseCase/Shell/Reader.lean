import UseCase.Shell.Script

/-!
# Reading scripts

A script is read line by line, since a shell runs one line before it looks at the next one; a
command that goes on over several lines is read as a whole. Words and operators are taken off the
front of the text as the grammar asks for them. A backslash in front of a line break joins lines.
-/

namespace UseCase.Shell

open Text (Bytes)

/-- A here-document that has been announced on the line being read. -/
structure Announced where
  number : Nat
  delimiter : Bytes
  /-- Whether tabs at the start of its lines are left out. -/
  dropsTabs : Bool
  /-- Whether parameters and commands in it are expanded. -/
  expands : Bool

/-- A word or an operator. -/
inductive Token where
  | finish
  | newline
  | operator (text : String)
  | redirect (channel : Option Nat) (text : String)
  | word (w : Word)

/-- The text that stands in place of another name of a command while it is read. -/
structure Stand where
  name : Bytes
  /-- The number of characters behind the text. -/
  behind : Nat
  /-- Whether the text ends in a blank, so that the next word may be such a name as well. -/
  endsBlank : Bool

/-- A text that is being read. -/
structure Source where
  rest : Bytes
  line : Nat
  /-- A token that was read but not used yet. -/
  ahead : Option Token
  announced : List Announced
  /-- The here-documents by number. -/
  documents : Array Word
  /-- Other names of commands, with the texts for which they stand. -/
  aliases : List (Bytes × Bytes)
  stands : List Stand

/-- Why a text is no script. -/
inductive ReadFault where
  | unterminated (what : String)
  | unexpected (what : String)
  /-- Something else has to stand at a place. -/
  | missing (what wanted : String)
  | badName
  | badLoop
  deriving DecidableEq, Repr

/-- The wording of a fault. -/
def ReadFault.message : ReadFault → String
  | unterminated what => what
  | unexpected what => what ++ " unexpected"
  | missing what wanted => what ++ " unexpected (expecting \"" ++ wanted ++ "\")"
  | badName => "Bad function name"
  | badLoop => "Bad for loop variable"

/-- A reader of some part of a script. -/
abbrev Read (α : Type) := EStateM ReadFault Source α

namespace Read

/-- The text without line breaks that a backslash joins, and the number of them. -/
def dropJoins : Bytes → Bytes × Nat
  | '\\' :: '\n' :: rest =>
    let (rest, count) := dropJoins rest
    (rest, count + 1)
  | cs => (cs, 0)

/-- The next character. -/
def peek : Read (Option Char) := do
  let s ← get
  let (rest, joined) := dropJoins s.rest
  set { s with rest := rest, line := s.line + joined }
  return rest.head?

/-- Drops the next character. -/
def skip : Read Unit := do
  modify fun s => match s.rest with
    | [] => s
    | c :: rest => { s with rest := rest, line := if c = '\n' then s.line + 1 else s.line }

/-- Takes the next character if it is the given one. -/
def accept (c : Char) : Read Bool := do
  if (← peek) = some c then
    skip
    return true
  return false

/-- Takes characters from the front. -/
def takeWhile (p : Char → Bool) : (fuel : Nat) → Read Bytes
  | 0 => return []
  | fuel + 1 => do
    match ← peek with
    | some c =>
      if p c then
        skip
        return c :: (← takeWhile p fuel)
      return []
    | none => return []

/-- The number of characters to come. -/
def size : Read Nat := do
  return (← get).rest.length + 1

/-- Runs a reader on another text that stands at the same place. -/
def within {α : Type} (text : Bytes) (r : Read α) : Read α := do
  let outer ← get
  set { outer with rest := text, ahead := none, announced := [], stands := [] }
  let a ← r
  modify fun s => { outer with documents := s.documents }
  return a

/-- What is being read. -/
inductive Place where
  | word
  | quotes
  | document
  | arithmetic
  /-- The word in the braces of a parameter. -/
  | braces (inQuotes : Bool)
  deriving DecidableEq, Repr

/-- Whether blanks and marks have no meaning at a place. -/
def Place.isQuoted : Place → Bool
  | .word | .braces false => false
  | _ => true

/-- Whether a backslash protects a character at a place. -/
def Place.protects (place : Place) (c : Char) : Bool :=
  match place with
  | .word | .braces false => true
  | .quotes | .arithmetic => ['$', '\x60', '\x22', '\\'].contains c
  | .document => ['$', '\x60', '\\'].contains c
  | .braces true => ['$', '\x60', '\x22', '\\', '\x7d'].contains c

/-- A character that ends a word. -/
def isMeta (c : Char) : Bool :=
  [' ', '\t', '\n', ';', '&', '|', '<', '>', '(', ')'].contains c

/-- The readers that words and commands call for each other. -/
structure Knot where
  pieces : Place → Read Word
  command : Read Command

/-- Reads up to an apostrophe. -/
def literal : (fuel : Nat) → Read Bytes
  | 0 => throw (.unterminated "Unterminated quoted string")
  | fuel + 1 => do
    match (← get).rest with
    | [] => throw (.unterminated "Unterminated quoted string")
    | c :: _ =>
      skip
      if c = '\x27' then return []
      return c :: (← literal fuel)

/-- Reads up to a backquote; a backslash protects a few characters. -/
def backquoted (inQuotes : Bool) : (fuel : Nat) → Read Bytes
  | 0 => throw (.unterminated "EOF in backquote substitution")
  | fuel + 1 => do
    match (← get).rest with
    | [] => throw (.unterminated "EOF in backquote substitution")
    | c :: rest =>
      skip
      if c = '\x60' then return []
      match c, rest with
      | '\\', d :: _ =>
        if ['\\', '\x60', '$'].contains d || (inQuotes && d == '\x22') then
          skip
          return d :: (← backquoted inQuotes fuel)
        return c :: (← backquoted inQuotes fuel)
      | _, _ => return c :: (← backquoted inQuotes fuel)

/-- A parameter that is not a variable. -/
def isSpecial (c : Char) : Bool :=
  ['@', '*', '#', '?', '-', '$', '!'].contains c

/-- Reads the name of a parameter in braces. -/
def parameterName : Read (Option Bytes) := do
  match ← peek with
  | some c =>
    if isNameStart c then return some (← takeWhile isNameChar (← size))
    else if c.isDigit then return some (← takeWhile Char.isDigit (← size))
    else if isSpecial c then
      skip
      return some [c]
    else return none
  | none => return none

/-- Reads what follows the name of a parameter in braces, up to the closing brace. -/
def useOf (knot : Knot) (inQuotes : Bool) : Read Use := do
  let word := knot.pieces (.braces inQuotes)
  let fallback? := fun (c : Option Char) => match c with
    | some '-' => some Fallback.value
    | some '=' => some .assign
    | some '?' => some .complain
    | some '+' => some .instead
    | _ => none
  match ← peek with
  | some '\x7d' =>
    skip
    return .value
  | some '%' =>
    skip
    let longest ← accept '%'
    return .trim ⟨true, longest⟩ (← knot.pieces (.braces false))
  | some '#' =>
    skip
    let longest ← accept '#'
    return .trim ⟨false, longest⟩ (← knot.pieces (.braces false))
  | c =>
    let colon ← accept ':'
    let c ← if colon then peek else pure c
    match fallback? c with
    | some how =>
      skip
      return .fallback how colon (← word)
    | none =>
      let _ ← word
      return .unknown

/-- Reads a parameter after its opening brace. -/
def braced (knot : Knot) (inQuotes : Bool) : Read Piece := do
  match (← get).rest with
  | '#' :: '\x7d' :: _ =>
    skip
    skip
    return .parameter ['#'] .value
  | '#' :: c :: _ =>
    skip
    let start ← get
    match ← parameterName with
    | some name =>
      if (← accept '\x7d') then return .parameter name .length
      if isNameChar c then
        let _ ← knot.pieces (.braces inQuotes)
        return .parameter name .unknown
      set start
      return .parameter ['#'] (← useOf knot inQuotes)
    | none => return .parameter ['#'] (← useOf knot inQuotes)
  | _ =>
    match ← parameterName with
    | some name => return .parameter name (← useOf knot inQuotes)
    | none =>
      let _ ← knot.pieces (.braces inQuotes)
      return .parameter [] .unknown

/-- Reads what follows a dollar sign. -/
def dollar (knot : Knot) (place : Place) : Read Piece := do
  let plain : Piece := if place.isQuoted then .quoted ['$'] else .bare '$'
  match ← peek with
  | some '(' =>
    skip
    if (← accept '(') then return .arithmetic (← knot.pieces .arithmetic)
    let c ← knot.command
    match (← get).ahead with
    | some (.operator ")") =>
      modify fun s => { s with ahead := none }
      return .output c
    | _ => throw (.missing "end of file" ")")
  | some '\x7b' =>
    skip
    braced knot place.isQuoted
  | some c =>
    if isNameStart c then return .parameter (← takeWhile isNameChar (← size)) .value
    else if c.isDigit || isSpecial c then
      skip
      return .parameter [c] .value
    else return plain
  | none => return plain

/-- The fault of a text that ends at a place where it may not. -/
def unterminated (place : Place) : ReadFault :=
  .unterminated (match place with
    | .arithmetic => "Missing '))'"
    | .braces _ => "Missing '\x7d'"
    | _ => "Unterminated quoted string")

/-- Reads the parts of a word. In arithmetic `depth` parentheses are open, and in braces between
quotation marks `depth` is one behind a further mark, up to the next one. -/
def piecesOf (knot : Knot) (place : Place) : (fuel depth : Nat) → Read Word
  | 0, _ => throw (unterminated place)
  | fuel + 1, depth => do
    let more := fun (p : Piece) (depth : Nat) => do
      let rest ← piecesOf knot place fuel depth
      return p :: rest
    let plain := fun (c : Char) => if place.isQuoted then Piece.quoted [c] else .bare c
    match ← peek with
    | none => if place = .word ∨ place = .document then return [] else throw (unterminated place)
    | some c =>
      if place = .word ∧ isMeta c then return []
      skip
      if c = '\\' then
        match (← get).rest with
        | [] => more (.quoted ['\\']) depth
        | d :: _ =>
          if place.protects d then
            skip
            more (.quoted [d]) depth
          else more (.quoted ['\\']) depth
      else if c = '$' then more (← dollar knot place) depth
      else if c = '\x60' then
        let text ← backquoted (place = .quotes) (← size)
        more (.output (← within text knot.command)) depth
      else if c = '\x22' then
        match place with
        | .quotes => return []
        | .word | .braces false => more (.quotes (← knot.pieces .quotes)) depth
        | .document | .arithmetic => more (plain c) depth
        | .braces true => piecesOf knot place fuel (1 - depth)
      else if c = '\x27' ∧ !place.isQuoted then
        more (.quoted (← literal (← size))) depth
      else match place, c with
        | .braces _, '\x7d' => if depth = 0 then return [] else more (plain c) depth
        | .arithmetic, '(' => more (plain c) (depth + 1)
        | .arithmetic, ')' =>
          let ends ← if depth = 0 then accept ')' else pure false
          if ends then return [] else more (plain c) (depth - 1)
        | _, _ => more (plain c) depth

/-- The lines of a here-document, and the text after it. -/
def documentLines (a : Announced) : (fuel : Nat) → Bytes → Bytes × Bytes
  | 0, cs => ([], cs)
  | fuel + 1, cs =>
    let cs := if a.dropsTabs then cs.dropWhile (· == '\t') else cs
    let line := cs.takeWhile (· != '\n')
    let rest := cs.dropWhile (· != '\n')
    if line = a.delimiter then ([], rest.drop 1)
    else match rest with
      | [] => (line, [])
      | c :: rest =>
        let (lines, rest) := documentLines a fuel rest
        (line ++ c :: lines, rest)

/-- Reads the here-documents that were announced. -/
def documents (knot : Knot) : List Announced → Read Unit
  | [] => pure ()
  | a :: more => do
    let s ← get
    let (text, rest) := documentLines a (s.rest.length + 1) s.rest
    let taken := s.rest.take (s.rest.length - rest.length)
    set { s with rest := rest, line := s.line + taken.count '\n' }
    let w ← if a.expands then within text (knot.pieces .document) else pure [.quoted text]
    modify fun s => { s with documents := s.documents.setIfInBounds a.number w }
    documents knot more

/-- Drops blanks and a comment. -/
def gap : (fuel : Nat) → Read Unit
  | 0 => pure ()
  | fuel + 1 => do
    match ← peek with
    | some c =>
      if c = ' ' ∨ c = '\t' then
        skip
        gap fuel
      else if c = '#' then
        modify fun s => { s with rest := s.rest.dropWhile (· != '\n') }
    | none => pure ()

/-- Reads the rest of an operator that redirects. -/
def redirection (c : Char) : Read String := do
  if c = '<' then
    if (← accept '<') then return if (← accept '-') then "<<-" else "<<"
    if (← accept '&') then return "<&"
    return if (← accept '>') then "<>" else "<"
  if (← accept '>') then return ">>"
  if (← accept '&') then return ">&"
  return if (← accept '|') then ">|" else ">"

/-- Reads a token from the text. -/
def scan (knot : Knot) : Read Token := do
  gap (← size)
  match ← peek with
  | none => return .finish
  | some c =>
    if c = '\n' then
      skip
      let announced := (← get).announced
      modify fun s => { s with announced := [] }
      documents knot announced
      return .newline
    else if c = '<' ∨ c = '>' then
      skip
      return .redirect none (← redirection c)
    else if isMeta c then
      skip
      let mayDouble := c == ';' || c == '&' || c == '|'
      let isDouble ← if mayDouble then accept c else pure false
      return .operator (String.ofList (if isDouble then [c, c] else [c]))
    else
      let w ← knot.pieces .word
      match w.bare?, ← peek with
      | some [d], some c =>
        if d.isDigit ∧ (c = '<' ∨ c = '>') then
          skip
          return .redirect (some (d.toNat - '0'.toNat)) (← redirection c)
        return .word w
      | _, _ => return .word w

/-- The words of the grammar. -/
def reserved : List String :=
  ["!", "\x7b", "\x7d", "case", "do", "done", "elif", "else", "esac", "fi", "for", "if", "in",
    "then", "until", "while"]

/-- The bare word that a token is. -/
def bareWord? : Token → Option String
  | .word w => (Word.bare? w).map String.ofList
  | _ => none

/-- The word of the grammar that a token may be. -/
def keyword? (t : Token) : Option String :=
  (bareWord? t).filter reserved.contains

/-- The text for which a token stands as another name of a command. A text does not stand for its own
name. -/
def standsFor? (t : Token) : Read (Option (Bytes × Bytes)) := do
  let s ← get
  match t with
  | .word w =>
    match w.bare? with
    | some name =>
      let isInUse := s.stands.any fun st => st.name == name && st.behind ≤ s.rest.length
      if isInUse then return none
      return (s.aliases.find? fun (n, _) => n == name)
    | none => return none
  | _ => return none

/-- Puts the text for which a name stands in its place. -/
def stand (name text : Bytes) : Read Unit :=
  modify fun s =>
    let endsBlank := text.getLast? == some ' ' || text.getLast? == some '\t'
    { s with
      rest := text ++ s.rest
      ahead := none
      stands := ⟨name, s.rest.length, endsBlank⟩ ::
        s.stands.filter fun st => st.behind ≤ s.rest.length }

/-- The next token; behind a text that ends in a blank, or where `replaces` tells so, a name is
replaced by what it stands for. At most `fuel` names are replaced. -/
def nextToken (knot : Knot) (replaces : Bool) : (fuel : Nat) → Read Token
  | 0 => scan knot
  | fuel + 1 => do
    let before := (← get).rest.length
    let t ← scan knot
    let s ← get
    let isBehindBlank := s.stands.any fun st =>
      st.endsBlank && st.behind < before && s.rest.length ≤ st.behind
    unless replaces || isBehindBlank do return t
    match ← standsFor? t with
    | some (name, text) =>
      stand name text
      nextToken knot true fuel
    | none => return t

/-- How many names may be replaced in front of one token. -/
def maxStands : Nat := 1000

/-- The next token. -/
def peekToken (knot : Knot) : Read Token := do
  match (← get).ahead with
  | some t => return t
  | none =>
    let t ← nextToken knot false maxStands
    modify fun s => { s with ahead := some t }
    return t

/-- The next token where a command may start; other names of commands are replaced by what they
stand for, at most `fuel` of them. -/
def peekStart (knot : Knot) : (fuel : Nat) → Read Token
  | 0 => peekToken knot
  | fuel + 1 => do
    let t ← peekToken knot
    if (keyword? t).isSome then return t
    match ← standsFor? t with
    | some (name, text) =>
      stand name text
      peekStart knot fuel
    | none => return t

/-- The next token where a command may start. -/
def peekCommand (knot : Knot) : Read Token :=
  peekStart knot maxStands

/-- Drops the next token. -/
def skipToken : Read Unit :=
  modify fun s => { s with ahead := none }

/-- How messages name a token. -/
def Token.text : Token → String
  | .finish => "end of file"
  | .newline => "newline"
  | .operator text => "\"" ++ text ++ "\""
  | .redirect _ _ => "redirection"
  | t@(.word _) =>
    match keyword? t with
    | some name => "\"" ++ name ++ "\""
    | none => "word"

/-- Refuses the next token. -/
def unexpected {α : Type} (t : Token) : Read α :=
  throw (.unexpected (Token.text t))

/-- Refuses the next token in place of another one. -/
def missing {α : Type} (t : Token) (wanted : String) : Read α :=
  throw (.missing (Token.text t) wanted)

/-- Drops line breaks, where `peek` looks at the next token. -/
def newlinesBy (peek : Read Token) : (fuel : Nat) → Read Unit
  | 0 => pure ()
  | fuel + 1 => do
    match ← peek with
    | .newline =>
      skipToken
      newlinesBy peek fuel
    | _ => pure ()

/-- Drops line breaks where a command may start. -/
def newlines (knot : Knot) : (fuel : Nat) → Read Unit :=
  newlinesBy (peekCommand knot)

/-- Whether a token is an operator with this text. -/
def isOperator (text : String) : Token → Bool
  | .operator t => t == text
  | _ => false

/-- Takes a word of the grammar, which may stand on a later line. -/
def expect (knot : Knot) (word : String) : Read Unit := do
  newlines knot (← size)
  let t ← peekToken knot
  if keyword? t = some word then skipToken else missing t word

/-- Reads a list of at least one command, behind which a word of the grammar is to follow. -/
def body (knot : Knot) (wanted : String) : Read Command := do
  match ← knot.command with
  | .nothing =>
    match ← peekToken knot with
    | .finish => missing .finish wanted
    | t => unexpected t
  | c => return c

/-- Reads the redirection whose operator has been taken. -/
def redirectOf (knot : Knot) (channel : Option Nat) (text : String) : Read Redirect := do
  match ← peekToken knot with
  | .word w =>
    skipToken
    let input := channel.getD 0
    let output := channel.getD 1
    match text with
    | "<" => return .file input .read w
    | "<>" => return .file input .both w
    | ">" => return .file output .write w
    | ">|" => return .file output .overwrite w
    | ">>" => return .file output .append w
    | "<&" => return .channel input w
    | ">&" => return .channel output w
    | _ =>
      let number := (← get).documents.size
      let a : Announced := ⟨number, Word.delimiter w, text == "<<-", Word.isBare w⟩
      modify fun s =>
        { s with announced := s.announced ++ [a], documents := s.documents.push [] }
      return .document input number
  | t => unexpected t

/-- Reads redirections. -/
def redirects (knot : Knot) : (fuel : Nat) → Read (List Redirect)
  | 0 => return []
  | fuel + 1 => do
    match ← peekCommand knot with
    | .redirect channel text =>
      skipToken
      let first ← redirectOf knot channel text
      return first :: (← redirects knot fuel)
    | _ => return []

/-- Reads words up to the end of a line. -/
def wordsToEnd (knot : Knot) : (fuel : Nat) → Read (List Word)
  | 0 => return []
  | fuel + 1 => do
    match ← peekToken knot with
    | .word w =>
      skipToken
      return w :: (← wordsToEnd knot fuel)
    | _ => return []

/-- The commands whose names no function may have. -/
def specialNames : List String :=
  [".", ":", "break", "continue", "eval", "exec", "exit", "export", "readonly", "return", "set",
    "shift", "times", "trap", "unset"]

/-- A simple command under construction; its parts are in reverse. -/
structure Parts where
  line : Nat
  assignments : List Assignment
  words : List Word
  redirects : List Redirect

/-- The simple command. -/
def Parts.command (p : Parts) : Command :=
  .simple p.line p.assignments.reverse p.words.reverse p.redirects.reverse

/-- Reads the rest of a simple command, or of the definition of a function. -/
def simple (knot : Knot) (compound : Read Command) : (fuel : Nat) → Parts → Read Command
  | 0, p => return p.command
  | fuel + 1, p => do
    match ← if p.words.isEmpty then peekCommand knot else peekToken knot with
    | .word w =>
      skipToken
      match p.words, Word.assignment? w with
      | [], some (name, value) =>
        simple knot compound fuel { p with assignments := .mk name value :: p.assignments }
      | _, _ => simple knot compound fuel { p with words := w :: p.words }
    | .redirect channel text =>
      skipToken
      let r ← redirectOf knot channel text
      simple knot compound fuel { p with redirects := r :: p.redirects }
    | t =>
      match isOperator "(" t, p.assignments, p.words, p.redirects with
      | true, [], [w], [] =>
        skipToken
        let close ← peekToken knot
        unless isOperator ")" close do missing close ")"
        skipToken
        match Word.bare? w with
        | some name =>
          if !isName name || specialNames.contains (String.ofList name) then throw .badName
          newlines knot (← size)
          return .define name (← compound)
        | none => throw .badName
      | _, _, _, _ => return p.command

/-- Reads the patterns of an arm, with bars between them, and the parenthesis after them. -/
def patterns (knot : Knot) : (fuel : Nat) → Read (List Word)
  | 0 => return []
  | fuel + 1 => do
    match ← peekToken knot with
    | .word w =>
      skipToken
      let t ← peekToken knot
      skipToken
      if isOperator "|" t then return w :: (← patterns knot fuel)
      else if isOperator ")" t then return [w]
      else missing t ")"
    | t => unexpected t

/-- Reads the arms of a choice and the word that ends it. -/
def arms (knot : Knot) : (fuel : Nat) → Read (List Arm)
  | 0 => return []
  | fuel + 1 => do
    newlinesBy (peekToken knot) (← size)
    let t ← peekToken knot
    if keyword? t = some "esac" then
      skipToken
      return []
    if isOperator "(" t then skipToken
    let ps ← patterns knot (← size)
    let arm := Arm.mk ps (← knot.command)
    let t ← peekToken knot
    if isOperator ";;" t then
      skipToken
      return arm :: (← arms knot fuel)
    else if keyword? t = some "esac" then
      skipToken
      return [arm]
    else missing t ";;"

/-- Reads the body of a loop. -/
def loopBody (knot : Knot) : Read Command := do
  expect knot "do"
  let c ← body knot "done"
  expect knot "done"
  return c

/-- Reads a loop over words, after the word that starts it. -/
def each (knot : Knot) : Read Command := do
  match ← peekToken knot with
  | .word w =>
    skipToken
    match (Word.bare? w).filter isName with
    | none => throw .badLoop
    | some name =>
      newlines knot (← size)
      let t ← peekToken knot
      if keyword? t = some "in" then
        skipToken
        let ws ← wordsToEnd knot (← size)
        let t ← peekToken knot
        match t with
        | .newline => skipToken
        | _ => if isOperator ";" t then skipToken else unexpected t
        return .each name (some ws) (← loopBody knot)
      if isOperator ";" t then skipToken
      return .each name none (← loopBody knot)
  | _ => throw .badLoop

/-- Reads a branch after its first word, up to the word that ends it. -/
def branch (knot : Knot) : (fuel : Nat) → Read Command
  | 0 => return .nothing
  | fuel + 1 => do
    let condition ← body knot "then"
    expect knot "then"
    let yes ← body knot "fi"
    let t ← peekToken knot
    match keyword? t with
    | some "fi" =>
      skipToken
      return .branch condition yes .nothing
    | some "else" =>
      skipToken
      let no ← body knot "fi"
      expect knot "fi"
      return .branch condition yes no
    | some "elif" =>
      skipToken
      return .branch condition yes (← branch knot fuel)
    | _ => missing t "fi"

/-- Reads a choice after its first word. -/
def choice (knot : Knot) : Read Command := do
  match ← peekToken knot with
  | .word subject =>
    skipToken
    expect knot "in"
    return .choice subject (← arms knot (← size))
  | t => unexpected t

/-- Reads a command of the grammar if one starts here. -/
def compound? (knot : Knot) (t : Token) : Read (Option Command) := do
  if isOperator "(" t then
    skipToken
    let c ← body knot ")"
    let close ← peekToken knot
    if isOperator ")" close then
      skipToken
      return some (.subshell c)
    missing close ")"
  match keyword? t with
  | some "if" =>
    skipToken
    return some (← branch knot (← size))
  | some "while" =>
    skipToken
    let condition ← body knot "do"
    return some (.loop false condition (← loopBody knot))
  | some "until" =>
    skipToken
    let condition ← body knot "do"
    return some (.loop true condition (← loopBody knot))
  | some "for" =>
    skipToken
    return some (← each knot)
  | some "case" =>
    skipToken
    return some (← choice knot)
  | some "\x7b" =>
    skipToken
    let c ← body knot "\x7d"
    expect knot "\x7d"
    return some c
  | some _ => unexpected t
  | none => return none

/-- Reads a command; definitions in definitions nest at most `fuel` deep. -/
def commandOf (knot : Knot) : (fuel : Nat) → Read Command
  | 0 => throw (.unexpected "word")
  | fuel + 1 => do
    let t ← peekCommand knot
    match ← compound? knot t with
    | some c =>
      match ← redirects knot (← size) with
      | [] => return c
      | rs => return .redirected c rs
    | none =>
      match t with
      | .word _ | .redirect _ _ =>
        simple knot (commandOf knot fuel) (← size) ⟨(← get).line, [], [], []⟩
      | t => unexpected t

/-- Reads commands with bars between them. -/
def pipes (knot : Knot) : (fuel : Nat) → Read (List Command)
  | 0 => return []
  | fuel + 1 => do
    let first ← commandOf knot 100
    let t ← peekToken knot
    if isOperator "|" t then
      skipToken
      newlines knot (← size)
      return first :: (← pipes knot fuel)
    return [first]

/-- Reads a pipeline. -/
def pipeline (knot : Knot) : Read Command := do
  let negated := keyword? (← peekCommand knot) = some "!"
  if negated then skipToken
  let c ← match ← pipes knot (← size) with
    | [c] => pure c
    | parts => pure (.pipeline parts)
  return if negated then .negate c else c

/-- Reads pipelines that depend on the success of what stands before them. -/
def conditional (knot : Knot) : (fuel : Nat) → Command → Read Command
  | 0, c => return c
  | fuel + 1, c => do
    let t ← peekToken knot
    if isOperator "&&" t then
      skipToken
      newlines knot (← size)
      conditional knot fuel (.both c (← pipeline knot))
    else if isOperator "||" t then
      skipToken
      newlines knot (← size)
      conditional knot fuel (.either c (← pipeline knot))
    else return c

/-- Whether a token ends a list of commands. -/
def closesList (t : Token) : Bool :=
  match t with
  | .finish => true
  | .operator text => text == ")" || text == ";;"
  | _ =>
    match keyword? t with
    | some word => ["then", "else", "elif", "fi", "do", "done", "esac", "\x7d"].contains word
    | none => false

/-- One command before others. -/
def append (first second : Command) : Command :=
  match second with
  | .nothing => first
  | second => .sequence first second

/-- Reads the commands of a list. On a single line the list ends with that line. -/
def list (knot : Knot) (oneLine : Bool) : (fuel : Nat) → Read Command
  | 0 => return .nothing
  | fuel + 1 => do
    unless oneLine do newlines knot (← size)
    let t ← peekCommand knot
    if closesList t then return .nothing
    let isEnd := match t with
      | .newline => true
      | _ => false
    if isEnd then
      skipToken
      return .nothing
    let first ← conditional knot (← size) (← pipeline knot)
    let t ← peekToken knot
    match t with
    | .newline =>
      skipToken
      if oneLine then return first
      return append first (← list knot oneLine fuel)
    | .operator ";" =>
      skipToken
      return append first (← list knot oneLine fuel)
    | .operator "&" =>
      skipToken
      return append (.background first) (← list knot oneLine fuel)
    | _ => return first

/-- The readers for words and commands that nest at most `depth` deep. -/
def knotAt : (depth : Nat) → Knot
  | 0 => ⟨fun place => throw (unterminated place), throw (.unexpected "word")⟩
  | depth + 1 =>
    let knot := knotAt depth
    ⟨fun place => do piecesOf knot place (← size) 0, do list knot false (← size)⟩

/-- The readers of a script. -/
def knot : Knot := knotAt 500

/-- Reads one line, or what goes on over several; nothing at the end of the text. -/
def line : Read (Option Command) := do
  match ← peekCommand knot with
  | .finish => return none
  | _ =>
    let c ← list knot true (← size)
    match (← get).ahead with
    | none | some .finish => return some c
    | some t => unexpected t

end Read

end UseCase.Shell
