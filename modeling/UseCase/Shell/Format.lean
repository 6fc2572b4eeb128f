import UseCase.Number.Binary64
import UseCase.Shell.Arithmetic

/-!
# Formatted text

Escapes in texts that are printed, and formats with directives for texts, characters, whole numbers
and numbers with a fraction. A format is used again as long as there are arguments for it; missing
arguments count as empty.
-/

namespace UseCase.Shell

open Text (Bytes)

/-- The value of an octal digit. -/
def octal? (c : Char) : Option Nat :=
  Text.radixDigit? 8 c

/-- The number that up to `count` octal digits write, and what follows them. -/
def takeOctal : (count acc : Nat) → Bytes → Nat × Bytes
  | 0, acc, cs => (acc, cs)
  | _, acc, [] => (acc, [])
  | count + 1, acc, c :: rest =>
    match octal? c with
    | some d => takeOctal count (acc * 8 + d) rest
    | none => (acc, c :: rest)

/-- The byte that an escape stands for, and what follows it. A backslash in front of any other byte
stands for itself. -/
def escape (cs : Bytes) : Char × Bytes :=
  match cs with
  | [] => ('\\', [])
  | c :: rest =>
    if (octal? c).isSome then
      let (n, rest) := takeOctal 3 0 cs
      (Char.ofNat (n % 256), rest)
    else match c with
      | '\\' => ('\\', rest)
      | 'a' => ('\x07', rest)
      | 'b' => ('\x08', rest)
      | 'e' => ('\x1b', rest)
      | 'f' => ('\x0c', rest)
      | 'n' => ('\n', rest)
      | 'r' => ('\r', rest)
      | 't' => ('\t', rest)
      | 'v' => ('\x0b', rest)
      | _ => ('\\', cs)

/-- A text with its escapes resolved, and whether one of them ends all output. A zero may stand in
front of an octal number. -/
def unescape : (fuel : Nat) → Bytes → Bytes × Bool
  | 0, _ | _, [] => ([], false)
  | fuel + 1, '\\' :: cs =>
    match cs with
    | 'c' :: _ => ([], true)
    | '0' :: d :: rest =>
      let (c, rest) := escape (if (octal? d).isSome then d :: rest else cs)
      let (more, stops) := unescape fuel rest
      (c :: more, stops)
    | cs =>
      let (c, rest) := escape cs
      let (more, stops) := unescape fuel rest
      (c :: more, stops)
  | fuel + 1, c :: cs =>
    let (more, stops) := unescape fuel cs
    (c :: more, stops)

/-- Texts with their escapes resolved, with blanks between them and the end of a line after them. -/
def echo (endsLine : Bool) : List Bytes → Bytes
  | [] => if endsLine then ['\n'] else []
  | text :: rest =>
    let (cs, stops) := unescape (text.length + 1) text
    if stops then cs
    else match rest with
      | [] => cs ++ echo endsLine []
      | rest => cs ++ ' ' :: echo endsLine rest

/-- A directive of a format. -/
structure Directive where
  flags : Bytes
  width : Nat
  precision : Option Nat
  conversion : Char

namespace Directive

/-- Whether a flag is set. -/
def has (d : Directive) (flag : Char) : Bool :=
  d.flags.contains flag

/-- A text filled up to the width. -/
def pad (d : Directive) (cs : Bytes) : Bytes :=
  let fill := List.replicate (d.width - cs.length) ' '
  if d.has '-' then cs ++ fill else fill ++ cs

/-- The digits of a number behind its sign, filled up to the width; `zeros` tells whether a flag may
ask for zeros. -/
def padNumber (d : Directive) (zeros : Bool) (sign digits : Bytes) : Bytes :=
  if zeros && d.has '0' && !d.has '-' then
    sign ++ List.replicate (d.width - sign.length - digits.length) '0' ++ digits
  else d.pad (sign ++ digits)

/-- The sign in front of a number. -/
def signOf (d : Directive) (negative : Bool) : Bytes :=
  if negative then ['-'] else if d.has '+' then ['+'] else if d.has ' ' then [' '] else []

/-- A text, cut to the precision. -/
def text (d : Directive) (cs : Bytes) : Bytes :=
  d.pad (match d.precision with
    | some n => cs.take n
    | none => cs)

/-- At least as many digits as the precision asks for; none for zero if it asks for none. -/
def atLeast (d : Directive) (n : Nat) (digits : Bytes) : Bytes :=
  match d.precision with
  | some 0 => if n = 0 then [] else digits
  | some count => List.replicate (count - digits.length) '0' ++ digits
  | none => digits

/-- A whole number. -/
def integer (d : Directive) (n : Int) : Bytes :=
  let zeros := d.precision.isNone
  let word := unsigned n
  match d.conversion with
  | 'd' | 'i' =>
    d.padNumber zeros (d.signOf (n < 0)) (d.atLeast n.natAbs (Nat.toDigits 10 n.natAbs))
  | 'o' =>
    let digits := d.atLeast word (Nat.toDigits 8 word)
    d.padNumber zeros [] (if d.has '#' && digits.head? != some '0' then '0' :: digits else digits)
  | 'u' => d.padNumber zeros [] (d.atLeast word (Nat.toDigits 10 word))
  | c =>
    let digits := d.atLeast word (Nat.toDigits 16 word)
    let mark := if d.has '#' && word != 0 then ['0', 'x'] else []
    let upper := fun cs : Bytes => if c = 'X' then cs.map Char.toUpper else cs
    d.padNumber zeros (upper mark) (upper digits)

/-- Decimal digits with a point in front of the last `places` of them. -/
def point (d : Directive) (places n : Nat) : Bytes :=
  let digits := Nat.toDigits 10 n
  let digits := List.replicate (places + 1 - digits.length) '0' ++ digits
  let whole := digits.take (digits.length - places)
  if places = 0 then if d.has '#' then whole ++ ['.'] else whole
  else whole ++ '.' :: digits.drop (digits.length - places)

/-- A fraction in units of `10 ^ -places`, rounded. -/
def roundAt (num den : Nat) (places : Int) : Nat :=
  if 0 ≤ places then Binary64.roundDiv (num * Nat.pow 10 places.toNat) den
  else Binary64.roundDiv num (den * Nat.pow 10 (-places).toNat)

/-- The digits of a fraction before the point, less one; from `guess` downwards. -/
def magnitude (num den : Nat) : (fuel : Nat) → (guess : Int) → Int
  | 0, guess => guess
  | fuel + 1, guess =>
    let isBelow :=
      if 0 ≤ guess then num < den * Nat.pow 10 guess.toNat
      else num * Nat.pow 10 (-guess).toNat < den
    if isBelow then magnitude num den fuel (guess - 1) else guess

/-- The digits of a fraction and its power of ten, with `places` digits behind the first one. -/
def scientific (num den places : Nat) : Nat × Int :=
  if num = 0 then (0, 0)
  else
    let guess : Int := (Nat.toDigits 10 num).length - (Nat.toDigits 10 den).length + 1
    let power := magnitude num den 4 guess
    let n := roundAt num den ((places : Int) - power)
    if n = Nat.pow 10 (places + 1) then (n / 10, power + 1) else (n, power)

/-- An exponent of two digits or more. -/
def exponent (power : Int) : Bytes :=
  let sign := if power < 0 then '-' else '+'
  'e' :: sign :: (Text.decimal 2 power.natAbs).toList

/-- Digits without the zeros at the end of a fraction. -/
def trimZeros (cs : Bytes) : Bytes :=
  if cs.contains '.' then
    let back := cs.reverse.dropWhile (· == '0')
    (if back.head? = some '.' then back.drop 1 else back).reverse
  else cs

/-- A fraction that is not negative. -/
def fraction (d : Directive) (num den : Nat) : Bytes :=
  let places := d.precision.getD 6
  match d.conversion.toLower with
  | 'f' => d.point places (roundAt num den places)
  | 'e' =>
    let (n, power) := scientific num den places
    d.point places n ++ exponent power
  | _ =>
    let count := max places 1
    let (n, power) := scientific num den (count - 1)
    let trim := fun cs : Bytes => if d.has '#' then cs else trimZeros cs
    if power < -4 ∨ (count : Int) ≤ power then trim (d.point (count - 1) n) ++ exponent power
    else
      let places := ((count : Int) - 1 - power).toNat
      trim (d.point places (roundAt num den places))

/-- The number `mantissa * 2 ^ e` in base sixteen, with a power of two. One digit stands in front of
the point, which is one unless the number is too small for that. -/
def sixteenths (d : Directive) (mantissa : Nat) (e : Int) : Bytes :=
  let places := d.precision.getD 13
  let n :=
    if places < 13 then Binary64.roundDiv mantissa (Nat.pow 16 (13 - places))
    else mantissa * Nat.pow 16 (places - 13)
  let digits := Nat.toDigits 16 (n % Nat.pow 16 places)
  let digits := List.replicate (places - digits.length) '0' ++ digits
  let digits := if places = 0 then [] else digits
  let digits :=
    if d.precision.isNone then (digits.reverse.dropWhile (· == '0')).reverse else digits
  let point := if digits.isEmpty && !d.has '#' then [] else ['.']
  let power := if mantissa = 0 then 0 else e + 52
  Nat.toDigits 10 (n / Nat.pow 16 places) ++ point ++ digits ++
    'p' :: (if power < 0 then '-' else '+') :: Nat.toDigits 10 power.natAbs

/-- A number with a fraction. -/
def float (d : Directive) (x : Binary64) : Bytes :=
  let upper := fun cs : Bytes => if d.conversion.isUpper then cs.map Char.toUpper else cs
  match x with
  | .finite negative mantissa e =>
    let sign := d.signOf negative
    if d.conversion.toLower = 'a' then
      d.padNumber true (sign ++ upper "0x".toList) (upper (d.sixteenths mantissa e))
    else
      let (num, den) := Binary64.scaled mantissa e
      d.padNumber true sign (upper (d.fraction num den))
  | .infinite negative => d.padNumber false (d.signOf negative) (upper "inf".toList)
  | .nan => d.padNumber false [] (upper "nan".toList)

end Directive

/-- The sign in front of a text, and the text behind it and blanks. -/
def takeSign (cs : Bytes) : Bool × Bytes :=
  match cs.dropWhile isBlank with
  | '-' :: rest => (true, rest)
  | '+' :: rest => (false, rest)
  | cs => (false, cs)

/-- Why an argument is not quite a number. -/
inductive NumberFault where
  | absent
  | unfinished
  | tooGreat
  deriving DecidableEq, Repr

/-- The wording of the fault. -/
def NumberFault.message : NumberFault → String
  | absent => "expected numeric value"
  | unfinished => "not completely converted"
  | tooGreat => "Numerical result out of range"

/-- The fault of an argument that goes on with a text after its number. -/
def NumberFault.ofRest? (rest : Bytes) (isTooGreat : Bool) : Option NumberFault :=
  if !rest.isEmpty then some unfinished else if isTooGreat then some tooGreat else none

/-- The number of an argument, within the bounds of a word with or without sign. Without one, a
number in front of which a minus stands counts back from the bound. -/
def integerArgument (isSigned : Bool) (cs : Bytes) : Int × Option NumberFault :=
  match cs with
  | [] => (0, none)
  | q :: rest =>
    if q = '\x22' ∨ q = '\x27' then ((rest.head?.map fun c => Int.ofNat c.toNat).getD 0, none)
    else
      let (negative, digits) := takeSign cs
      if digits.head?.any Char.isDigit then
        let (n, rest) := takeNumber digits
        let bound : Int := Text.wordCount 64
        let number := if negative then -n else n
        let kept := if isSigned then clamp number else if n < bound then number else bound - 1
        (kept, NumberFault.ofRest? rest (kept != number))
      else (0, some .absent)

/-- The digits in a base that a text begins with, those behind a point, and the rest. -/
def takeDigits (base : Nat) (cs : Bytes) : Bytes × Bytes × Bytes :=
  let isDigit := fun (c : Char) => (Text.radixDigit? base c).isSome
  let whole := cs.takeWhile isDigit
  match cs.drop whole.length with
  | '.' :: more => (whole, more.takeWhile isDigit, more.dropWhile isDigit)
  | rest => (whole, [], rest)

/-- The power behind a letter, if a text begins with it, and the rest. -/
def takePower (letter : Char) (cs : Bytes) : Int × Bytes :=
  match cs with
  | e :: more =>
    let (below, digits) := match more with
      | '-' :: digits => (true, digits)
      | '+' :: digits => (false, digits)
      | digits => (false, digits)
    let count := digits.takeWhile Char.isDigit
    if e.toLower = letter ∧ count ≠ [] then
      let n : Int := (Text.digits? count).getD 0
      (if below then -n else n, digits.drop count.length)
    else (0, cs)
  | [] => (0, [])

/-- The number with a fraction that a text without sign begins with, in base sixteen if it starts
so, and the rest. -/
def takeFraction? (negative : Bool) (cs : Bytes) : Option (Binary64 × Bytes) :=
  let sixteen? := match cs with
    | '0' :: x :: rest =>
      let (whole, part, rest) := takeDigits 16 rest
      if (x = 'x' ∨ x = 'X') ∧ whole ++ part ≠ [] then some (whole, part, rest) else none
    | _ => none
  match sixteen? with
  | some (whole, part, rest) =>
    let (power, rest) := takePower 'p' rest
    let n := (Text.radixFrom? 16 0 (whole ++ part)).getD 0
    let (num, den) := Binary64.scaled n (power - 4 * part.length)
    some (Binary64.ofRatio negative num den, rest)
  | none =>
    let (whole, part, rest) := takeDigits 10 cs
    if whole.isEmpty && part.isEmpty then none
    else
      let (power, rest) := takePower 'e' rest
      let n := (Text.digits? (whole ++ part)).getD 0
      some (Binary64.ofDecimal negative n (power - part.length), rest)

/-- The number with a fraction of an argument. -/
def floatArgument (cs : Bytes) : Binary64 × Option NumberFault :=
  match cs with
  | [] => (Binary64.zero false, none)
  | q :: rest =>
    if q = '\x22' ∨ q = '\x27' then
      (Binary64.ofNat ((rest.head?.map Char.toNat).getD 0), none)
    else
      let (negative, digits) := takeSign cs
      match takeFraction? negative digits with
      | some (x, rest) => (x, NumberFault.ofRest? rest (x = .infinite negative))
      | none =>
        let name := String.ofList (digits.map Char.toLower)
        if name = "inf" ∨ name = "infinity" then (.infinite negative, none)
        else if name = "nan" then (.nan, none)
        else (Binary64.zero false, some .absent)

/-- Why a directive of a format cannot be carried out. -/
inductive DirectiveFault where
  | unfinished
  | unknown (text : Bytes)
  deriving DecidableEq, Repr

/-- The wording of the fault. -/
def DirectiveFault.message : DirectiveFault → String
  | unfinished => "missing format character"
  | unknown text => s!"{Text.ofBytes text}: invalid directive"

/-- A format being used. -/
structure Printing where
  /-- What is printed, in reverse. -/
  printed : List Bytes
  args : List Bytes
  /-- The arguments that are not quite numbers, the latest first. -/
  wrong : List (Bytes × NumberFault)
  /-- Whether nothing more is printed. -/
  stops : Bool
  /-- The fault of a directive that cannot be carried out. -/
  invalid : Option DirectiveFault

namespace Printing

/-- The next argument, and what is left to do. -/
def next (p : Printing) : Bytes × Printing :=
  match p.args with
  | [] => ([], p)
  | a :: rest => (a, { p with args := rest })

/-- One more text. -/
def add (p : Printing) (cs : Bytes) : Printing :=
  { p with printed := cs :: p.printed }

/-- Notes an argument that may not quite be a number. -/
def note (p : Printing) (arg : Bytes) : Option NumberFault → Printing
  | none => p
  | some fault => { p with wrong := (arg, fault) :: p.wrong }

/-- A number in a format, which may come from an argument. -/
def takeCount (p : Printing) (cs : Bytes) : Option Int × Bytes × Printing :=
  match cs with
  | '*' :: rest =>
    let (arg, p) := p.next
    let (n, fault?) := integerArgument true arg
    (some n, rest, p.note arg fault?)
  | _ =>
    let digits := cs.takeWhile Char.isDigit
    ((Text.digits? digits).map Int.ofNat, cs.drop digits.length, p)

/-- Carries out a directive. -/
def direct (p : Printing) (d : Directive) : Printing :=
  let (arg, p) := p.next
  match d.conversion with
  | 's' => p.add (d.text arg)
  | 'c' => p.add (d.pad [arg.headD '\x00'])
  | 'b' =>
    let (cs, stops) := unescape (arg.length + 1) arg
    { p.add (d.text cs) with stops := stops }
  | c =>
    if "diouxX".toList.contains c then
      let (n, fault?) := integerArgument (c = 'd' ∨ c = 'i') arg
      (p.add (d.integer n)).note arg fault?
    else
      let (x, fault?) := floatArgument arg
      (p.add (d.float x)).note arg fault?

/-- Uses a format once. -/
def pass : (fuel : Nat) → Bytes → Printing → Printing
  | 0, _, p | _, [], p => p
  | fuel + 1, '\\' :: cs, p =>
    let (c, rest) := escape cs
    pass fuel rest (p.add [c])
  | fuel + 1, '%' :: '%' :: cs, p => pass fuel cs (p.add ['%'])
  | fuel + 1, '%' :: cs, p =>
    let isFlag := fun c => ['#', '-', '+', ' ', '0'].contains c
    let flags := cs.takeWhile isFlag
    let (width, rest, p) := p.takeCount (cs.drop flags.length)
    let (precision, rest, p) := match rest with
      | '.' :: rest =>
        let (n, rest, p) := p.takeCount rest
        (some (n.getD 0), rest, p)
      | rest => (none, rest, p)
    let width := width.getD 0
    let flags := if width < 0 then '-' :: flags else flags
    let precision := (precision.filter (0 ≤ ·)).map Int.toNat
    match rest with
    | [] => { p with invalid := some .unfinished, stops := true }
    | c :: rest =>
      if "sbcdiouxXeEfFgGaA".toList.contains c then
        let p := p.direct ⟨flags, width.natAbs, precision, c⟩
        if p.stops then p else pass fuel rest p
      else
        let shown := '%' :: cs.take (cs.length - rest.length)
        { p with invalid := some (.unknown shown), stops := true }
  | fuel + 1, c :: cs, p => pass fuel cs (p.add [c])

/-- Uses a format as long as there are arguments and it takes some. -/
def repeatPass (format : Bytes) : (fuel : Nat) → Printing → Printing
  | 0, p => p
  | fuel + 1, p =>
    let q := pass (format.length + 1) format p
    if q.stops || q.args.isEmpty || q.args.length = p.args.length then q
    else repeatPass format fuel q

/-- Uses a format for arguments. -/
def ofFormat (format : Bytes) (args : List Bytes) : Printing :=
  repeatPass format (args.length + 1) ⟨[], args, [], false, none⟩

/-- Everything that is printed. -/
def text (p : Printing) : Bytes :=
  p.printed.reverse.flatten

end Printing

end UseCase.Shell
