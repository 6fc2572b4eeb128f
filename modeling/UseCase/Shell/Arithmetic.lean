import UseCase.Shell.Script
import UseCase.Text.Numeral

/-!
# Arithmetic

Expressions over 64-bit numbers with the usual operators for integers, bits, comparison, choice and
assignment, but without increments. A variable counts as the number that its text writes, and as
zero if it has none. Operands that do not matter for the result are not evaluated.

Any text reads as an expression: where one cannot be read further it has a gap, and evaluation ends
at the first gap, even among operands that do not matter. What stands in front of it is evaluated.
-/

namespace UseCase.Shell

open Text (Bytes)

/-- An operator between two operands. -/
inductive Operator where
  | times | quotient | modulo | plus | minus | shiftLeft | shiftRight
  | less | atMost | greater | atLeast | equal | unequal | bitAnd | bitXor | bitOr
  deriving DecidableEq, Repr

/-- An operator in front of an operand. -/
inductive Sign where
  | plus | minus | complement | negation
  deriving DecidableEq, Repr

/-- An expression. A gap stands where an operand is wanted, and an expression is cut where something
else is wanted behind it. -/
inductive Expression where
  | gap
  | cut (e : Expression) (wanted : String)
  | number (n : Int)
  | named (name : Bytes)
  | signed (s : Sign) (e : Expression)
  | binary (op : Operator) (a b : Expression)
  | both (a b : Expression)
  | either (a b : Expression)
  | choose (condition yes no : Expression)
  | assign (name : Bytes) (op : Option Operator) (e : Expression)
  deriving Repr

/-- Why an expression has no value. -/
inductive ArithmeticFault where
  | expecting (wanted : String)
  | divisionByZero
  /-- A quotient is too great for a word. -/
  | quotientOverflow
  | badNumber (text : Bytes)
  deriving DecidableEq, Repr

/-- The number in a 64-bit word. -/
def wrap (n : Int) : Int :=
  n.bmod (Text.wordCount 64)

/-- The word for an integer, without sign. -/
def unsigned (n : Int) : Nat :=
  (n % (Text.wordCount 64 : Int)).toNat

/-- The number that a text begins with, in base eight or sixteen if it starts so, and what follows.
-/
def takeNumber (cs : Bytes) : Int × Bytes :=
  let base := fun (n : Nat) (cs : Bytes) =>
    let digits := cs.takeWhile fun c => (Text.radixDigit? n c).isSome
    (Int.ofNat ((Text.radixFrom? n 0 digits).getD 0), cs.drop digits.length)
  match cs with
  | '0' :: x :: d :: rest =>
    if (x = 'x' ∨ x = 'X') ∧ (Text.radixDigit? 16 d).isSome then base 16 (d :: rest)
    else base 8 cs
  | '0' :: _ => base 8 cs
  | _ => base 10 cs

/-- A number within the bounds of a word. -/
def clamp (n : Int) : Int :=
  let bound : Int := Text.wordCount 63
  if bound ≤ n then bound - 1 else if n < -bound then -bound else n

/-- Whether a byte is a blank. -/
def isBlank (c : Char) : Bool :=
  c == ' ' || (9 ≤ c.toNat && c.toNat ≤ 13)

/-- The number that a whole text writes, with blanks around it, if a word can hold it. -/
def wholeNumber? (cs : Bytes) : Option Int :=
  let cs := cs.dropWhile isBlank
  let (negative, digits) := match cs with
    | '-' :: rest => (true, rest)
    | '+' :: rest => (false, rest)
    | _ => (false, cs)
  if digits.head?.any Char.isDigit then
    let (n, rest) := takeNumber digits
    let n := if negative then -n else n
    if rest.all isBlank ∧ clamp n = n then some n else none
  else none

namespace Operator

/-- The operators with their texts, longer ones first. -/
def table : List (String × Operator) :=
  [("<<", shiftLeft), (">>", shiftRight), ("<=", atMost), (">=", atLeast), ("==", equal),
    ("!=", unequal), ("*", times), ("/", quotient), ("%", modulo), ("+", plus), ("-", minus),
    ("<", less), (">", greater), ("&", bitAnd), ("^", bitXor), ("|", bitOr)]

/-- How tightly an operator binds its operands. -/
def rank : Operator → Nat
  | times | quotient | modulo => 10
  | plus | minus => 9
  | shiftLeft | shiftRight => 8
  | less | atMost | greater | atLeast => 7
  | equal | unequal => 6
  | bitAnd => 5
  | bitXor => 4
  | bitOr => 3

/-- Whether an operator can be joined with an assignment. -/
def isAssignable : Operator → Bool
  | less | atMost | greater | atLeast | equal | unequal => false
  | _ => true

/-- The truth value of a condition. -/
def truth (b : Bool) : Int :=
  if b then 1 else 0

/-- The value of an operator. -/
def apply (op : Operator) (a b : Int) : Except ArithmeticFault Int :=
  match op with
  | times => .ok (wrap (a * b))
  | quotient => divide (a.tdiv b)
  | modulo => divide (a.tmod b)
  | plus => .ok (wrap (a + b))
  | minus => .ok (wrap (a - b))
  | shiftLeft => .ok (wrap (Int.ofNat (unsigned a <<< (unsigned b % 64))))
  | shiftRight => .ok (a / (Text.wordCount (unsigned b % 64) : Int))
  | less => .ok (truth (a < b))
  | atMost => .ok (truth (a ≤ b))
  | greater => .ok (truth (b < a))
  | atLeast => .ok (truth (b ≤ a))
  | equal => .ok (truth (a = b))
  | unequal => .ok (truth (a ≠ b))
  | bitAnd => .ok (wrap (Int.ofNat (unsigned a &&& unsigned b)))
  | bitXor => .ok (wrap (Int.ofNat (unsigned a ^^^ unsigned b)))
  | bitOr => .ok (wrap (Int.ofNat (unsigned a ||| unsigned b)))
where
  /-- The result of a division, unless there is none within the bounds. -/
  divide (result : Int) : Except ArithmeticFault Int :=
    if b = 0 then .error .divisionByZero
    else if b = -1 ∧ a = -(Text.wordCount 63 : Int) then .error .quotientOverflow
    else .ok result

end Operator

/-- The sign that a character is. -/
def Sign.ofChar? : Char → Option Sign
  | '+' => some plus
  | '-' => some minus
  | '~' => some complement
  | '!' => some negation
  | _ => none

/-- The value of a number behind a sign. -/
def Sign.apply (s : Sign) (n : Int) : Int :=
  match s with
  | plus => n
  | minus => wrap (-n)
  | complement => -n - 1
  | negation => Operator.truth (n = 0)

namespace Expression

/-- The text without blanks in front. -/
def skip (cs : Bytes) : Bytes :=
  cs.dropWhile fun c => c == ' ' || c == '\t' || c == '\n'

/-- The text after `start`, if it begins with that. -/
def after? : Bytes → Bytes → Option Bytes
  | [], cs => some cs
  | s :: start, c :: cs => if s = c then after? start cs else none
  | _ :: _, [] => none

/-- The longest text of an operator between operands that a text begins with, and the rest. -/
def symbol? (cs : Bytes) : Option (Operator × Bytes) :=
  Operator.table.findSome? fun (text, op) => (after? text.toList cs).map fun rest => (op, rest)

/-- Reads an operator between operands; not one that is a part of a longer sign. -/
def operator? (cs : Bytes) : Option (Operator × Bytes) :=
  (symbol? cs).filter fun (op, rest) =>
    let isPart := fun (c : Char) => (op.isAssignable && c == '=') || (op == .bitAnd && c == '&') ||
      (op == .bitOr && c == '|')
    !rest.head?.any isPart

/-- Reads the sign of an assignment with the operator joined to it. -/
def assignment? (cs : Bytes) : Option (Option Operator × Bytes) :=
  match cs with
  | '=' :: '=' :: _ => none
  | '=' :: rest => some (none, rest)
  | _ =>
    match symbol? cs with
    | some (op, '=' :: rest) => if op.isAssignable then some (some op, rest) else none
    | _ => none

/-- A reader of expressions, which also returns what it leaves. Nothing is left behind a gap. -/
abbrev Reader := Bytes → Expression × Bytes

/-- Reads an operand; `whole` reads what stands in parentheses. -/
def operand (whole : Reader) : (fuel : Nat) → Reader
  | 0, _ => (gap, [])
  | fuel + 1, cs =>
    match skip cs with
    | [] => (gap, [])
    | c :: rest =>
      if c = '(' then
        let (e, rest) := whole rest
        match skip rest with
        | ')' :: rest => (e, rest)
        | _ => (cut e "')'", [])
      else if let some s := Sign.ofChar? c then
        let (e, rest) := operand whole fuel rest
        (signed s e, rest)
      else if c.isDigit then
        let (n, rest) := takeNumber (c :: rest)
        (number (clamp n), rest)
      else if isNameStart c then
        (named ((c :: rest).takeWhile isNameChar), (c :: rest).dropWhile isNameChar)
      else (gap, [])

/-- Reads operators that bind at least as tightly as `rank`, and their operands, after the first
one. -/
def chain (operand : Reader) : (fuel rank : Nat) → Expression → Reader
  | 0, _, e, cs => (e, cs)
  | fuel + 1, rank, e, cs =>
    match operator? (skip cs) with
    | none => (e, cs)
    | some (op, rest) =>
      if op.rank < rank then (e, cs)
      else
        let (next, rest) := operand rest
        let (second, rest) := chain operand fuel (op.rank + 1) next rest
        chain operand fuel rank (binary op e second) rest

/-- Reads operands between two signs of a logical operator. -/
def logical (text : Bytes) (join : Expression → Expression → Expression) (operand : Reader) :
    (fuel : Nat) → Reader
  | 0, cs => operand cs
  | fuel + 1, cs =>
    let (first, rest) := operand cs
    match after? text (skip rest) with
    | none => (first, rest)
    | some rest =>
      let (second, rest) := logical text join operand fuel rest
      (join first second, rest)

/-- Reads a choice, whose last part may be another one; `whole` reads what stands in parentheses and
between the signs of a choice. -/
def choice (whole : Reader) : (fuel : Nat) → Reader
  | 0, _ => (gap, [])
  | fuel + 1, cs =>
    let simple : Reader := fun cs =>
      let (first, rest) := operand whole (fuel + 1) cs
      chain (operand whole (fuel + 1)) fuel 0 first rest
    let conjunction := logical "&&".toList both simple fuel
    let (condition, rest) := logical "||".toList either conjunction fuel cs
    match skip rest with
    | '?' :: rest =>
      let (yes, rest) := whole rest
      match skip rest with
      | ':' :: rest =>
        let (no, rest) := choice whole fuel rest
        (choose condition yes no, rest)
      | _ => (cut (choose condition yes (number 0)) "':'", [])
    | _ => (condition, rest)

/-- Reads an assignment to a name in front, or else a choice. Each use of `fuel` takes a character,
so that there is enough for a text that is shorter. -/
def read : (fuel : Nat) → Reader
  | 0, _ => (gap, [])
  | fuel + 1, cs =>
    let start := skip cs
    let name := if start.head?.any isNameStart then start.takeWhile isNameChar else []
    match name, assignment? (skip (start.drop name.length)) with
    | _ :: _, some (op, rest) =>
      let (e, rest) := read fuel rest
      (assign name op e, rest)
    | _, _ => choice (read fuel) (fuel + 1) cs

/-- A whole text as an expression. -/
def ofText (cs : Bytes) : Expression :=
  let (e, rest) := read (cs.length + 1) cs
  if (skip rest).isEmpty then e else cut e "EOF"

/-- The assignments so far, the latest first. -/
abbrev Assigned := List (Bytes × Int)

/-- A calculation, which can assign numbers to variables. -/
abbrev Calculation := EStateM ArithmeticFault Assigned

/-- The number in a variable; `value` looks up its text. -/
def valueOf (value : Bytes → Bytes) (name : Bytes) : Calculation Int := do
  match (← get).find? fun (n, _) => n == name with
  | some (_, n) => return n
  | none =>
    let text := value name
    if text.all isBlank then return 0
    match wholeNumber? text with
    | some n => return n
    | none => throw (.badNumber text)

/-- The value of an operator between two numbers. -/
def operate (op : Operator) (a b : Int) : Calculation Int :=
  match op.apply a b with
  | .ok n => pure n
  | .error fault => throw fault

/-- The value of an expression. One that does not matter is only searched for gaps. -/
def eval (value : Bytes → Bytes) : Expression → (matters : Bool) → Calculation Int
  | gap, _ => throw (.expecting "primary")
  | cut e wanted, matters => do
    let _ ← eval value e matters
    throw (.expecting wanted)
  | number n, _ => return n
  | named name, matters => if matters then valueOf value name else return 0
  | signed s e, matters => return s.apply (← eval value e matters)
  | binary op a b, matters => do
    let a ← eval value a matters
    let b ← eval value b matters
    if matters then operate op a b else return 0
  | both a b, matters => do
    let a ← eval value a matters
    let b ← eval value b (matters && a != 0)
    return Operator.truth (a != 0 && b != 0)
  | either a b, matters => do
    let a ← eval value a matters
    let b ← eval value b (matters && a == 0)
    return Operator.truth (a != 0 || b != 0)
  | choose condition yes no, matters => do
    let condition ← eval value condition matters
    let yes ← eval value yes (matters && condition != 0)
    let no ← eval value no (matters && condition == 0)
    return if condition = 0 then no else yes
  | assign name op e, matters => do
    let n ← eval value e matters
    unless matters do return n
    let n ← match op with
      | none => pure n
      | some op => do operate op (← valueOf value name) n
    modify fun assigned => (name, n) :: assigned
    return n

/-- The value of a text as an expression, if it has one, and the assignments that it makes in order,
some of which may come before a fault. -/
def calculate (value : Bytes → Bytes) (cs : Bytes) : Except ArithmeticFault Int × Assigned :=
  match (eval value (ofText cs) true).run [] with
  | .ok n assigned => (.ok n, assigned.reverse)
  | .error fault assigned => (.error fault, assigned.reverse)

end Expression

end UseCase.Shell
