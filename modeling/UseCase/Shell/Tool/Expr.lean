import UseCase.Shell.Regex
import UseCase.Shell.Tool.Lines

/-!
# Expressions of arguments

`expr` computes with its arguments: numbers and texts, comparisons, and matches of expressions at
the start of a text.
-/

namespace UseCase.Shell.Tool

open Text (Bytes)

/-- A value and the arguments behind it, or the reason why there is none. -/
abbrev Computed := Except String (Bytes × List Bytes)

/-- The number that a text is. -/
def wholeText? (cs : Bytes) : Option Int :=
  match cs with
  | '-' :: digits => (Text.digits? digits).map fun n => -Int.ofNat n
  | digits => (Text.digits? digits).map Int.ofNat

/-- The text of a number. -/
def numeral (n : Int) : Bytes :=
  (toString n).toList

/-- Whether a value counts as false. -/
def isNull (cs : Bytes) : Bool :=
  cs.isEmpty || wholeText? cs == some 0

/-- The value of an operator on numbers. -/
def arithmetic (op : String) (a b : Bytes) : Except String Bytes :=
  match wholeText? a, wholeText? b with
  | some x, some y =>
    match op with
    | "+" => .ok (numeral (x + y))
    | "-" => .ok (numeral (x - y))
    | "*" => .ok (numeral (x * y))
    | "/" => if y = 0 then .error "division by zero" else .ok (numeral (x.tdiv y))
    | _ => if y = 0 then .error "division by zero" else .ok (numeral (x.tmod y))
  | _, _ => .error "non-integer argument"

/-- The value of a comparison, of numbers if both sides are some. -/
def comparison (op : String) (a b : Bytes) : Bytes :=
  let order : Ordering := match wholeText? a, wholeText? b with
    | some x, some y => compareOfLessAndEq x y
    | _, _ => compareOfLessAndEq (String.ofList a) (String.ofList b)
  let holds : Bool := match op with
    | "<" => order == .lt
    | "<=" => order != .gt
    | "=" | "==" => order == .eq
    | "!=" => order != .eq
    | ">=" => order != .lt
    | _ => order == .gt
  if holds then ['1'] else ['0']

/-- The length of a match at the start of a text, or the first group of the expression. -/
def matchAt (cs re : Bytes) : Except String Bytes :=
  let form : Regex.Form := ⟨false, false⟩
  match Regex.ofText? form re with
  | none => .error "Invalid regular expression"
  | some r =>
    let hasGroup := ((re.zip (re.drop 1)).any fun (a, b) => a == '\\' && b == '(')
    match Regex.longest (Regex.ends form r (.ofText cs)) with
    | none => .ok (if hasGroup then [] else ['0'])
    | some q =>
      if hasGroup then .ok (((q.groups.find? fun (n, _) => n == 1).map Prod.snd).getD [])
      else .ok (numeral (cs.length - q.rest.length))

/-- The operators, from those that bind most tightly. -/
def exprLevels : List (List String) :=
  [[":"], ["*", "/", "%"], ["+", "-"], ["<", "<=", "=", "==", "!=", ">=", ">"], ["&"], ["|"]]

/-- The value of an operator. -/
def operate (op : String) (a b : Bytes) : Except String Bytes :=
  match op with
  | ":" => matchAt a b
  | "|" => .ok (if !isNull a then a else if isNull b then ['0'] else b)
  | "&" => .ok (if isNull a || isNull b then ['0'] else a)
  | op =>
    if ["+", "-", "*", "/", "%"].contains op then arithmetic op a b else .ok (comparison op a b)

/-- A value that is no result of an operator; `whole` reads what stands in parentheses. -/
def operand (whole : List Bytes → Computed) (args : List Bytes) : Computed :=
  match args with
  | [] => .error "syntax error: missing argument"
  | arg :: rest =>
    match String.ofList arg, rest with
    | "(", rest => do
      let (v, rest) ← whole rest
      match rest with
      | [')'] :: rest => return (v, rest)
      | _ => throw "syntax error: expecting ')'"
    | "length", s :: rest => .ok (numeral s.length, rest)
    | "match", s :: re :: rest => do return (← matchAt s re, rest)
    | "index", s :: set :: rest =>
      .ok (numeral (Int.ofNat (((s.findIdx? set.contains).map (· + 1)).getD 0)), rest)
    | "substr", s :: p :: n :: rest =>
      let cs := match wholeText? p, wholeText? n with
        | some p, some n => if 0 < p then (s.drop (p.toNat - 1)).take n.toNat else []
        | _, _ => []
      .ok (cs, rest)
    | "+", s :: rest => .ok (s, rest)
    | _, _ => .ok (arg, rest)

/-- The values of operators of one level, after the first operand. -/
def chain (next : List Bytes → Computed) (ops : List String) :
    (fuel : Nat) → Bytes → List Bytes → Computed
  | fuel + 1, v, op :: rest =>
    let text := String.ofList op
    if ops.contains text then do
      let (w, rest) ← next rest
      chain next ops fuel (← operate text v w) rest
    else .ok (v, op :: rest)
  | _, v, rest => .ok (v, rest)

/-- The value of an expression of some levels of operators. -/
def levels (whole : List Bytes → Computed) : List (List String) → List Bytes → Computed
  | [], args => operand whole args
  | ops :: below, args => do
    let (v, rest) ← levels whole below args
    chain (levels whole below) ops (rest.length + 1) v rest

/-- The value of an expression with parentheses that nest at most `depth` deep. -/
def compute : (depth : Nat) → List Bytes → Computed
  | 0, _ => .error "syntax error"
  | depth + 1, args => levels (compute depth) exprLevels.reverse args

/-- Prints the value of its arguments. -/
def express : Tool := fun _ args => do
  if args.isEmpty then return ← misuse "expr" 2 "missing operand"
  let result : Except String Bytes := do
    let (v, rest) ← compute (args.length + 1) args
    match rest with
    | [] => return v
    | extra :: _ => throw s!"syntax error: unexpected argument '{Text.ofBytes extra}'"
  match result with
  | .ok v => output (if isNull v then 1 else 0) (v ++ ['\n'])
  | .error reason =>
    tell "expr" reason
    return 2

end UseCase.Shell.Tool
