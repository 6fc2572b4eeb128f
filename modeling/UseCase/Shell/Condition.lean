import UseCase.Files
import UseCase.Shell.Permission
import UseCase.Shell.Script
import UseCase.Text.Numeral

/-!
# Conditions

The conditions of `test`: about texts, whole numbers and files, with negation, conjunction,
disjunction and parentheses. An operator that has nothing to work on is a text like any other. With
three arguments an operator in the middle decides how they are read.
-/

namespace UseCase.Shell

open Text (Bytes)

/-- What an argument of a condition can be. -/
inductive Role where
  | finish
  | operand
  | unary (letter : Char)
  | binary (text : String)
  | negation
  | conjunction
  | disjunction
  | opening
  | closing
  deriving DecidableEq

/-- A condition that cannot be read, with the reason. -/
abbrev Judged := Except String (Bool × List Bytes)

/-- The operators between two operands. -/
def comparisons : List String :=
  ["=", "!=", "<", ">", "-eq", "-ne", "-ge", "-gt", "-le", "-lt", "-nt", "-ot", "-ef"]

/-- The operator that an argument can be. -/
def operatorOf? (cs : Bytes) : Option Role :=
  match cs with
  | ['!'] => some .negation
  | ['('] => some .opening
  | [')'] => some .closing
  | ['-', 'a'] => some .conjunction
  | ['-', 'o'] => some .disjunction
  | ['-', c] => if "rwxefdcbpugkstznhOGLS".toList.contains c then some (.unary c) else none
  | cs =>
    let text := String.ofList cs
    if comparisons.contains text then some (.binary text) else none

/-- Whether an argument is an operator between operands. -/
def isComparison (cs : Bytes) : Bool :=
  match operatorOf? cs with
  | some (.binary _) => true
  | _ => false

/-- What the first of some arguments is. -/
def roleOf : List Bytes → Role
  | [] => .finish
  | cs :: rest =>
    match operatorOf? cs with
    | none => .operand
    | some (.unary c) =>
      let isOperand := match rest with
        | [] => true
        | [_] => false
        | next :: _ => isComparison next
      if isOperand then .operand else .unary c
    | some .opening => if rest.isEmpty then .operand else .opening
    | some s => s

/-- A decimal number with blanks around it. -/
def decimal? (cs : Bytes) : Option Int :=
  let isSpace := fun c : Char => c == ' ' || (9 ≤ c.toNat && c.toNat ≤ 13)
  let inner := ((cs.dropWhile isSpace).reverse.dropWhile isSpace).reverse
  Text.integer? 64 inner

/-- Whether a file has the property with a letter. Reading and writing are always allowed. -/
def hasProperty (fs : Files) (letter : Char) (path : Bytes) : Bool :=
  let text := Text.ofBytes path
  let isDevice := text == "/dev/null"
  if letter = 'h' ∨ letter = 'L' then
    match fs.findEntry text with
    | .ok (.link _) => true
    | _ => false
  else match fs.find text with
    | .ok t =>
      match letter with
      | 'e' | 'r' | 'w' | 'O' | 'G' => true
      | 'd' => t.isDirectory
      | 'x' => t.isDirectory || t.mode &&& Permission.forAll 1 != 0
      | 'u' => t.mode &&& 0o4000 != 0
      | 'g' => t.mode &&& 0o2000 != 0
      | 'k' => t.mode &&& 0o1000 != 0
      | 'f' =>
        match t with
        | .file _ _ => true
        | _ => false
      | 'c' =>
        match t with
        | .device _ _ => true
        | _ => false
      | 's' =>
        match t with
        | .file content _ => !content.bytes.isEmpty
        | t => t.isDirectory
      | _ => false
    | .error _ => isDevice && "ecrwOG".toList.contains letter

/-- The value of an operator in front of an operand. -/
def judgeUnary (fs : Files) (letter : Char) (cs : Bytes) : Bool :=
  match letter with
  | 'n' => !cs.isEmpty
  | 'z' => cs.isEmpty
  | 't' => false
  | c => hasProperty fs c cs

/-- The value of an operator between operands. -/
def judgeBinary (fs : Files) (op : String) (a b : Bytes) : Except String Bool := do
  let number := fun (cs : Bytes) => match decimal? cs with
    | some n => Except.ok n
    | none => .error s!"Illegal number: {Text.ofBytes cs}"
  let compare := fun (holds : Int → Int → Bool) => do
    let a ← number a
    let b ← number b
    return holds a b
  match op with
  | "=" => return a == b
  | "!=" => return a != b
  | "<" => return String.ofList a < String.ofList b
  | ">" => return String.ofList b < String.ofList a
  | "-eq" => compare (· == ·)
  | "-ne" => compare (· != ·)
  | "-ge" => compare (· ≥ ·)
  | "-gt" => compare (· > ·)
  | "-le" => compare (· ≤ ·)
  | "-lt" => compare (· < ·)
  | "-ef" =>
    match fs.locate (Text.ofBytes a), fs.locate (Text.ofBytes b) with
    | .ok names, .ok others => return names == others
    | _, _ => return false
  | _ => return false

/-- Evaluates conditions with nested ones; the arguments left begin with the last one used. -/
structure Judge where
  disjunction : Role → List Bytes → Judged
  negation : Role → List Bytes → Judged

namespace Judge

/-- A condition without operators around it. -/
def primary (fs : Files) (judge : Judge) (s : Role) (args : List Bytes) : Judged :=
  match s, args with
  | .finish, _ => .ok (false, args)
  | .opening, _ :: rest =>
    if roleOf rest = .closing then .ok (false, rest)
    else do
      let (b, rest) ← judge.disjunction (roleOf rest) rest
      match roleOf (rest.drop 1) with
      | .closing => return (b, rest.drop 1)
      | _ => throw "closing paren expected"
  | .unary letter, _ :: rest =>
    match rest with
    | [] => .error "argument expected"
    | cs :: _ => .ok (judgeUnary fs letter cs, rest)
  | _, a :: rest =>
    match roleOf rest, rest.drop 1 with
    | .binary op, b :: more => do return (← judgeBinary fs op a b, b :: more)
    | .binary op, [] => .error s!"{op}: argument expected"
    | _, _ => .ok (!a.isEmpty, args)
  | _, [] => .ok (false, [])

/-- A condition with signs of negation in front. -/
def negated (fs : Files) (judge : Judge) (s : Role) (args : List Bytes) : Judged :=
  if s = .negation then do
    let next := roleOf (args.drop 1)
    let (b, rest) ← judge.negation next (if next = .finish then args else args.drop 1)
    return (!b, rest)
  else primary fs judge s args

/-- Conditions of which all have to hold. -/
def conjunction (fs : Files) (judge : Judge) : (fuel : Nat) → Role → List Bytes → Judged
  | 0, _, args => .ok (false, args)
  | fuel + 1, s, args => do
    let (b, rest) ← negated fs judge s args
    if roleOf (rest.drop 1) = .conjunction then
      let (c, rest) ← conjunction fs judge fuel (roleOf (rest.drop 2)) (rest.drop 2)
      return (b && c, rest)
    else return (b, rest)

/-- Conditions of which one has to hold. -/
def disjoined (fs : Files) (judge : Judge) : (fuel : Nat) → Role → List Bytes → Judged
  | 0, _, args => .ok (false, args)
  | fuel + 1, s, args => do
    let (b, rest) ← conjunction fs judge (args.length + 1) s args
    if roleOf (rest.drop 1) = .disjunction then
      let (c, rest) ← disjoined fs judge fuel (roleOf (rest.drop 2)) (rest.drop 2)
      return (b || c, rest)
    else return (b, rest)

/-- Conditions that nest at most `depth` deep. -/
def atDepth (fs : Files) : (depth : Nat) → Judge
  | 0 => ⟨fun _ args => .ok (false, args), fun _ args => .ok (false, args)⟩
  | depth + 1 =>
    let judge := atDepth fs depth
    ⟨fun s args => disjoined fs judge (args.length + 1) s args, negated fs judge⟩

end Judge

/-- Evaluates arguments as one expression. -/
def judgeExpression (fs : Files) (s : Role) (args : List Bytes) : Except String Bool := do
  let (b, rest) ← (Judge.atDepth fs (args.length + 2)).disjunction s args
  match rest with
  | last :: _ :: _ => throw s!"{Text.ofBytes last}: unexpected operator"
  | _ => return b

/-- Evaluates the arguments of a test. -/
def judge (fs : Files) : List Bytes → Except String Bool
  | [] => .ok false
  | ['!'] :: rest =>
    match rest with
    | [a, b] => if isComparison a then judgeExpression fs .operand [['!'], a, b]
      else (judge fs [a, b]).map not
    | [a, b, c] =>
      if a = ['!'] ∧ !isComparison b then (judgeExpression fs (roleOf [b, c]) [b, c]).map not
      else (judge fs [a, b, c]).map not
    | rest => judgeExpression fs (roleOf (['!'] :: rest)) (['!'] :: rest)
  | [a, op, b] =>
    if isComparison op then judgeExpression fs .operand [a, op, b]
    else if a = ['('] ∧ b = [')'] then judgeExpression fs (roleOf [op]) [op]
    else judgeExpression fs (roleOf [a, op, b]) [a, op, b]
  | [a, b, c, d] =>
    if a = ['('] ∧ d = [')'] then judgeExpression fs (roleOf [b, c]) [b, c]
    else judgeExpression fs (roleOf [a, b, c, d]) [a, b, c, d]
  | args => judgeExpression fs (roleOf args) args

end UseCase.Shell
