import UseCase.Shell.Arithmetic
import UseCase.Shell.Field
import UseCase.Shell.Subshell

/-!
# Expansion of words

Parameters, the output of commands and arithmetic are put in their places; then words are cut into
fields and patterns become the names of files. Quotation marks keep a value together. A parameter
without a value may get another one, or end the shell.
-/

namespace UseCase.Shell

open Text (Bytes)

namespace Eval

/-- The value of a parameter that is one text. -/
def single? (name : Bytes) : Eval (Option Bytes) := do
  let p ← self
  let decimal := fun (n : Nat) => (toString n).toList
  match name with
  | ['?'] => return some (decimal p.status)
  | ['#'] => return some (decimal p.arguments.length)
  | ['$'] => return some (decimal p.number)
  | ['!'] => return p.lastChild.map decimal
  | ['-'] => return some (Setting.letters p.settings)
  | _ =>
    if name.all Char.isDigit then
      match Text.digits? name with
      | some 0 => return some p.name
      | some n => return p.arguments[n - 1]?
      | none => return none
    else if name = "LINENO".toList then return some (decimal p.line)
    else value? name

/-- The characters that separate fields. -/
def separators : Eval Bytes := do
  return (← value? "IFS".toList).getD [' ', '\t', '\n']

/-- What stands between arguments that become one text: the first separator of fields, if any. -/
def between : Eval Bytes := do
  return ((← value? "IFS".toList).getD [' ']).take 1

/-- The marks of parts that become one text. -/
def whole (items : List Item) : Eval (List Mark) := do
  return Item.marks (← between) items

/-- Texts with a separator between them. -/
def joined (separator : Bytes) (texts : List Bytes) : Bytes :=
  separator.intercalate texts

/-- The arguments of a shell as parts of a word. -/
def arguments (name : Bytes) (inQuotes : Bool) : Eval (List Item) := do
  let args := (← self).arguments
  if inQuotes && name == ['*'] then
    return Item.ofText true false (joined (← between) args)
  let each := args.map fun arg =>
    (if inQuotes then [.hold] else []) ++ Item.ofText inQuotes (!inQuotes) arg
  return [.boundary].intercalate each

/-- A value as a part of a word. -/
def item (inQuotes : Bool) (cs : Bytes) : List Item :=
  Item.ofText inQuotes (!inQuotes) cs

/-- The text without line breaks at its end and without zero bytes. -/
def trimOutput (bs : Bytes) : Bytes :=
  ((bs.filter (· != '\x00')).reverse.dropWhile (· == '\n')).reverse

/-- A parameter as parts of a word. -/
def parameter (name : Bytes) (inQuotes : Bool) : Eval (List Item) := do
  if name = ['@'] ∨ name = ['*'] then arguments name inQuotes
  else match ← single? name with
    | some cs => return item inQuotes cs
    | none =>
      if ← isOn .nounset then
        if name != ['!'] then fail s!"{Text.ofBytes name}: parameter not set"
      return []

/-- The value of an expression. -/
def calculate (text : Bytes) : Eval Bytes := do
  let p ← self
  let value := fun (name : Bytes) =>
    ((p.bindings.find? fun (n, _) => n == name).bind fun (_, v) => v.value).getD []
  let (result, assigned) := Expression.calculate value text
  assigned.forM fun (name, n) => assign name (toString n).toList
  let wrong := fun {α : Type} (what : String) =>
    (fail ("arithmetic expression: " ++ what ++ ": \"" ++ Text.ofBytes text ++ "\"") : Eval α)
  match result with
  | .ok n => return (toString n).toList
  | .error (.expecting wanted) => wrong ("expecting " ++ wanted)
  | .error .divisionByZero => wrong "division by zero"
  | .error .quotientOverflow => throw (.killed p.number Signal.quotient)
  | .error (.badNumber cs) => fail ("Illegal number: " ++ Text.ofBytes cs)

/-- How the parts of a word are expanded. -/
structure Context where
  inQuotes : Bool
  /-- Whether a tilde may also follow a colon. -/
  inPath : Bool
  /-- Whether bare characters can separate fields. -/
  separates : Bool
  /-- Whether the word becomes fields. -/
  splits : Bool

/-- A word that becomes one text. -/
def Context.word : Context := ⟨false, false, false, false⟩

/-- A word that becomes fields. -/
def Context.fields : Context := ⟨false, false, false, true⟩

/-- The value of an assignment. -/
def Context.value : Context := ⟨false, true, false, false⟩

/-- A text in which nothing is cut or protected. -/
def Context.quotes : Context := ⟨true, false, false, false⟩

/-- What stands between quotation marks. -/
def Context.quoted (c : Context) : Context := ⟨true, false, false, c.splits⟩

/-- A word in the braces of a parameter. -/
def Context.braces (c : Context) : Context := ⟨c.inQuotes, false, !c.inQuotes, c.splits⟩

/-- Whether a name stands for all arguments. -/
def isPlural (name : Bytes) : Bool :=
  name = ['@'] ∨ name = ['*']

/-- The text of a parameter that is used as one. All arguments together are one text where they are
joined; elsewhere zero bytes keep them apart. -/
def parameterText (c : Context) (name : Bytes) : Eval (Option Bytes) := do
  if isPlural name then
    let ifs ← value? "IFS".toList
    let mayJoin := if c.inQuotes then name == ['*'] else ifs.isNone
    let separator ← if c.splits && !mayJoin then pure ['\x00'] else between
    return some (joined separator (← self).arguments)
  else single? name

/-- A text as parts of a word, in which zero bytes keep arguments apart. -/
def partedItems (inQuotes : Bool) (cs : Bytes) : List Item :=
  let boundary := if inQuotes then [.boundary, .hold] else [.boundary]
  boundary.intercalate ((Text.segments '\x00' cs).map (item inQuotes))

/-- The home directory if a word starts with a tilde for it. -/
def home? (c : Context) (w : Word) : Eval (Option Bytes) := do
  let stands := match w with
    | [.bare '~'] => true
    | .bare '~' :: .bare d :: _ => d == '/' || (c.inPath && d == ':')
    | _ => false
  if stands && !c.inQuotes then value? "HOME".toList else return none

mutual

/-- A piece of a word after expansion. -/
def expandPiece (run : Runner) (c : Context) : Piece → Eval (List Item)
  | .bare d => return [.mark ⟨d, c.inQuotes⟩ c.separates]
  | .quoted [] => return [.hold]
  | .quoted cs => return Item.ofText true false cs
  | .quotes [.parameter ['@'] .value] => parameter ['@'] true
  | .quotes inner => return .hold :: (← expandPieces run c.quoted false inner)
  | .parameter name use => expandUse run c name use
  | .output command => do
    let (bs, status) ← capture run (run .plain command)
    change fun p => { p with substituted := status }
    return item c.inQuotes (trimOutput bs)
  | .arithmetic inner => do
    let items ← expandPieces run .quotes false inner
    return item c.inQuotes (← calculate (plainText (← whole items)))

/-- What is taken of a parameter, after expansion. -/
def expandUse (run : Runner) (c : Context) (name : Bytes) : Use → Eval (List Item)
  | .value => parameter name c.inQuotes
  | .length => do
    let _ ← parameter name true
    return item c.inQuotes (toString ((← parameterText .word name).getD []).length).toList
  | .fallback how colon word => do
    let present := (← parameterText c name).any fun cs => !(colon && cs.isEmpty)
    match how, present with
    | .instead, true => expandPieces run c.braces true word
    | .instead, false => return []
    | _, true => parameter name c.inQuotes
    | .value, false => expandPieces run c.braces true word
    | .assign, false => do
      let c := { c with splits := false }
      let cs := plainText (← whole (← expandPieces run c.braces true word))
      if !isName name then fail s!"{Text.ofBytes name}: bad variable name"
      assign name cs
      return item c.inQuotes cs
    | .complain, false => do
      let c := { c with splits := false }
      let cs := plainText (← whole (← expandPieces run c.braces true word))
      let unset := if colon then "parameter not set or null" else "parameter not set"
      let reason := if cs.isEmpty then unset else Text.ofBytes cs
      fail s!"{Text.ofBytes name}: {reason}"
  | .trim how pattern => do
    let ms ← whole (← expandPieces run .word true pattern)
    let _ ← parameter name true
    let cs := (← parameterText c name).getD []
    return partedItems c.inQuotes ((Pattern.ofMarks ms).trim how cs)
  | .unknown => fail "Bad substitution"

/-- The parts of a word after expansion. -/
def expandPieces (run : Runner) (c : Context) (isStart : Bool) : List Piece → Eval (List Item)
  | [] => return []
  | p :: rest => do
    let home ← if isStart then home? c (p :: rest) else pure none
    let first ← match home with
      | some home => pure (Item.ofText true false home)
      | none => expandPiece run c p
    let opens := match p with
      | .bare ':' => c.inPath
      | _ => false
    return first ++ (← expandPieces run c opens rest)

end

/-- The fields that a word becomes. -/
def fields (run : Runner) (w : Word) : Eval (List Bytes) := do
  let items ← expandPieces run .fields true w
  let expands := !(← isOn .noglob)
  let fs := (← world).files
  return (Item.fields (← separators) items).flatMap (Pattern.texts fs expands)

/-- The text that a word becomes where there is only one. -/
def text (run : Runner) (c : Context) (w : Word) : Eval Bytes := do
  return plainText (← whole (← expandPieces run c true w))

/-- The pattern that a word becomes. -/
def pattern (run : Runner) (w : Word) : Eval Pattern := do
  return Pattern.ofMarks (← whole (← expandPieces run .word true w))

end Eval

end UseCase.Shell
