import UseCase.Activation
import UseCase.Loader

/-!
# Output

What a command prints, as text for people or as JSON on one line.
-/

namespace UseCase.CommandLine

/-- The answer of a command. -/
inductive Output where
  | text (content : String)
  | integer (n : Int)
  | list (entries : List Entry)
  | status (s : Status)
  deriving DecidableEq, Repr

/-- Four hexadecimal digits, with lower-case letters. -/
def hexadecimal4 (n : Nat) : List Char :=
  let digits := Nat.toDigits 16 n
  List.replicate (4 - digits.length) '0' ++ digits

/-- How a character is written in a JSON string. -/
def jsonChar (c : Char) : List Char :=
  if c = '\x22' then ['\\', '\x22']
  else if c = '\\' then ['\\', '\\']
  else if c = '\x08' then ['\\', 'b']
  else if c = '\t' then ['\\', 't']
  else if c = '\n' then ['\\', 'n']
  else if c = '\x0c' then ['\\', 'f']
  else if c = '\r' then ['\\', 'r']
  else if c.toNat < 0x20 then '\\' :: 'u' :: hexadecimal4 c.toNat
  else [c]

/-- A JSON string. -/
def jsonString (s : String) : String :=
  String.ofList ('\x22' :: (s.toList.flatMap jsonChar ++ ['\x22']))

/-- A JSON string, or null. -/
def jsonOption : Option String → String
  | some s => jsonString s
  | none => "null"

/-- A JSON array of written values. -/
def jsonArray (values : List String) : String :=
  "[" ++ ",".intercalate values ++ "]"

/-- A JSON object of written values. -/
def jsonObject (fields : List (String × String)) : String :=
  let members := fields.map fun (name, value) => jsonString name ++ ":" ++ value
  "\x7b" ++ ",".intercalate members ++ "\x7d"

namespace Output

/-- The line for an element of a list. -/
def entryLine (e : Entry) : String :=
  match e.comment with
  | some comment => e.name ++ ": " ++ comment ++ "\n"
  | none => e.name ++ "\n"

/-- The output for people. -/
def plain : Output → String
  | text content => content ++ "\n"
  | integer n => toString n ++ "\n"
  | list entries => String.join (entries.map entryLine)
  | status s =>
    "verb: " ++ s.verb.getD inactiveName ++ "\n" ++
      "devices: " ++ ", ".intercalate s.devices ++ "\n" ++
      "modifiers: " ++ ", ".intercalate s.modifiers ++ "\n"

/-- The output as a JSON value. -/
def json : Output → String
  | text content => jsonString content
  | integer n => toString n
  | list entries => jsonArray (entries.map fun e =>
    jsonObject [("name", jsonString e.name), ("comment", jsonOption e.comment)])
  | status s => jsonObject [("verb", jsonOption s.verb),
    ("devices", jsonArray (s.devices.map jsonString)),
    ("modifiers", jsonArray (s.modifiers.map jsonString))]

/-- What is printed. -/
def render (asJson : Bool) (o : Output) : String :=
  if asJson then o.json ++ "\n" else o.plain

end Output

end UseCase.CommandLine
