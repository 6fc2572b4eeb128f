import UseCase.Shell.Format
import UseCase.Shell.Pattern
import UseCase.Shell.Tool

/-!
# Translation of bytes

`tr` replaces the bytes of one set by those of another one, removes them, or leaves only one of
several in a row. A set is written with ranges, classes and repetitions.
-/

namespace UseCase.Shell.Tool

open Text (Bytes)

/-- A part of a set. -/
inductive SetPart where
  | bytes (cs : Bytes)
  /-- A byte that fills the set up to the size of another one. -/
  | filling (c : Char)
  /-- The bytes of a class. -/
  | named (name : String) (cs : Bytes)

namespace SetPart

/-- All bytes. -/
def all : Bytes :=
  (List.range 256).map Char.ofNat

/-- Resolves escapes; the bytes that come from them are protected. -/
def unescaped : (fuel : Nat) → Bytes → List (Char × Bool)
  | 0, _ | _, [] => []
  | fuel + 1, '\\' :: c :: rest =>
    let (d, rest) := escape (c :: rest)
    if d = '\\' ∧ c ≠ '\\' then (c, true) :: unescaped fuel (rest.drop 1)
    else (d, true) :: unescaped fuel rest
  | fuel + 1, c :: rest => (c, false) :: unescaped fuel rest

/-- How a byte is shown in a complaint. -/
def shown (c : Char) : String :=
  String.ofList [c]

/-- The number of repetitions in front of a closing bracket, in octal behind a zero, and the rest. -/
def repetitions? (cs : List (Char × Bool)) : Option (Nat × List (Char × Bool)) :=
  let digits := (cs.takeWhile fun (c, isProtected) => c.isDigit && !isProtected).map Prod.fst
  match cs.drop digits.length with
  | (']', false) :: rest =>
    let base := if digits.head? = some '0' then 8 else 10
    (Text.radixFrom? base 0 digits).map fun n => (n, rest)
  | _ => none

/-- Reads the parts of a set. -/
def read : (fuel : Nat) → List (Char × Bool) → Except String (List SetPart)
  | 0, _ | _, [] => .ok []
  | fuel + 1, (c, isProtected) :: rest =>
    let plain := fun (_ : Unit) => do
      match rest with
      | ('-', false) :: (high, _) :: rest =>
        if high < c then
          throw (s!"range-endpoints of '{shown c}-{shown high}' are in reverse " ++
            "collating sequence order")
        let count := high.toNat + 1 - c.toNat
        let range := (List.range count).map fun n => Char.ofNat (c.toNat + n)
        return .bytes range :: (← read fuel rest)
      | rest => return .bytes [c] :: (← read fuel rest)
    if c != '[' || isProtected then plain ()
    else match rest with
      | (':', false) :: more =>
        let name := (more.takeWhile fun (d, _) => d != ':').map Prod.fst
        match more.drop name.length with
        | (':', _) :: (']', _) :: more =>
          let text := String.ofList name
          match classOf? text with
          | some holds => do return .named text (all.filter holds) :: (← read fuel more)
          | none => throw s!"invalid character class '{text}'"
        | _ => plain ()
      | ('=', false) :: (d, _) :: ('=', false) :: (']', false) :: more => do
        return .bytes [d] :: (← read fuel more)
      | (d, _) :: ('*', false) :: more =>
        match repetitions? more with
        | some (0, more) => do return .filling d :: (← read fuel more)
        | some (n, more) => do return .bytes (List.replicate n d) :: (← read fuel more)
        | none => plain ()
      | _ => plain ()

/-- The parts of a written set. -/
def ofText (cs : Bytes) : Except String (List SetPart) :=
  read (cs.length + 1) (unescaped (cs.length + 1) cs)

/-- The bytes of parts, of which one may fill them up to a size. -/
def toBytes (size : Nat) (parts : List SetPart) : Bytes :=
  let sizeOf : SetPart → Nat
    | bytes cs | named _ cs => cs.length
    | filling _ => 0
  let left := size - (parts.map sizeOf).foldl (· + ·) 0
  parts.flatMap fun
    | bytes cs | named _ cs => cs
    | filling c => List.replicate left c

/-- Whether a part is one of those that fill a set. -/
def isFilling : SetPart → Bool
  | filling _ => true
  | _ => false

/-- Whether a part is a class that cannot be the goal of a translation. -/
def isNoGoal : SetPart → Bool
  | named name _ => name != "upper" && name != "lower"
  | _ => false

end SetPart

/-- Bytes in which those of a set stand only once in a row. -/
def squeeze (set cs : Bytes) : Bytes :=
  (cs.foldl (fun kept c =>
    if kept.head? == some c && set.contains c then kept else c :: kept) []).reverse

/-- What `tr` does with bytes. -/
def translation (a : Arguments) (written : Bytes) (second : Option Bytes) :
    Except String (Bytes → Bytes) := do
  let parts ← SetPart.ofText written
  if parts.any SetPart.isFilling then
    throw "the [c*] repeat construct may not appear in string1"
  let first := SetPart.toBytes 0 parts
  let isInverse := a.has 'c' || a.has 'C'
  let first := if isInverse then SetPart.all.filter (!first.contains ·) else first
  let removes := a.has 'd'
  match second with
  | none => return fun cs => if removes then cs.filter (!first.contains ·) else squeeze first cs
  | some second =>
    let goal ← SetPart.ofText second
    let set := SetPart.toBytes first.length goal
    if removes then return fun cs => squeeze set (cs.filter (!first.contains ·))
    if goal.any SetPart.isNoGoal then
      throw ("when translating, the only character classes that may appear in\n" ++
        "string2 are 'upper' and 'lower'")
    if set.isEmpty && !a.has 't' then
      throw "when not truncating set1, string2 must be non-empty"
    let first := if a.has 't' then first.take set.length else first
    let last := set.getLast?.getD ' '
    -- A byte that stands in the first set several times goes where its last place says.
    let pairs := (first.zipIdx.map fun (c, i) => (c, (set[i]?).getD last)).reverse
    let map := fun (c : Char) => ((pairs.find? fun (d, _) => d == c).map Prod.snd).getD c
    return fun cs =>
      let cs := cs.map map
      if a.has 's' then squeeze set cs else cs

/-- Replaces, removes or squeezes bytes. -/
def translate : Tool := fun _ args =>
  let long := [("delete", 'd'), ("squeeze-repeats", 's'), ("complement", 'c'),
    ("truncate-set1", 't')]
  let a := arguments "dscCt" "" long args
  checked "tr" 1 a do
    let removes := a.has 'd'
    let squeezes := a.has 's'
    let run := fun (first : Bytes) (second : Option Bytes) => do
      match translation a first second with
      | .ok f => output 0 (f ((← Eval.readAll 0).getD []))
      | .error text =>
        tell "tr" text
        return 1
    match a.operands with
    | [] => misuse "tr" 1 "missing operand"
    | [first] =>
      if removes != squeezes then run first none
      else
        let why := if removes then "both deleting and squeezing repeats" else "translating"
        misuseBecause "tr" 1 s!"missing operand after '{Text.ofBytes first}'"
          [s!"Two strings must be given when {why}."]
    | [first, second] =>
      if removes && !squeezes then
        misuseBecause "tr" 1 s!"extra operand '{Text.ofBytes second}'"
          ["Only one string may be given when deleting without squeezing repeats."]
      else run first (some second)
    | _ :: _ :: extra :: _ => misuse "tr" 1 s!"extra operand '{Text.ofBytes extra}'"

end UseCase.Shell.Tool
