import UseCase.Text.Bytes

/-!
# Permissions

The permissions of a file are nine bits: to read, write and run it, for its owner, its group and all
others. A symbolic mode tells by clauses how permissions change; what it takes from the permissions
themselves is what they were before the first clause.
-/

namespace UseCase.Shell

open Text (Bytes)

/-- A change of permissions. -/
structure PermissionChange where
  /-- The bits of those that it is for. -/
  whom : Nat
  /-- The bits that it may give. -/
  granted : Nat
  operator : Char
  letters : Bytes
  deriving DecidableEq, Repr

namespace Permission

/-- All permissions. -/
def all : Nat := 0o777

/-- The permissions without those that a mask takes. -/
def without (mask bits : Nat) : Nat :=
  bits &&& (0o7777 - mask)

/-- The permissions of a new file. -/
def forFile (mask : Nat) : Nat :=
  without mask 0o666

/-- The permissions of a new directory. -/
def forDirectory (mask : Nat) : Nat :=
  without mask all

/-- Three bits for all three kinds of users. -/
def forAll (bits : Nat) : Nat :=
  0o111 * bits

/-- The bit that tells directories from files while permissions are changed. -/
def directoryBit : Nat := 0o10000

/-- The bits of the users with a letter. -/
def whom (c : Char) : Nat :=
  match c with
  | 'u' => 0o4700
  | 'g' => 0o2070
  | 'o' => 0o1007
  | _ => 0o7777

/-- The permissions that a letter stands for, where some are given; a capital letter stands for
running what is a directory or what somebody may run already. -/
def ofLetter (old : Nat) (c : Char) : Nat :=
  match c with
  | 'r' => forAll 4
  | 'w' => forAll 2
  | 'x' => forAll 1
  | 'X' => if old &&& (directoryBit ||| forAll 1) = 0 then 0 else forAll 1
  | 's' => 0o6000
  | 't' => 0o1000
  | 'u' => forAll (old / 64 % 8)
  | 'g' => forAll (old / 8 % 8)
  | 'o' => forAll (old % 8)
  | _ => 0

end Permission

namespace PermissionChange

/-- Permissions after a change, which may refer to the old ones. -/
def apply (old now : Nat) (c : PermissionChange) : Nat :=
  let bits := c.granted &&& c.letters.foldl (fun bits l => bits ||| Permission.ofLetter old l) 0
  let kept := fun (without : Nat) => now &&& (0o17777 - without)
  match c.operator with
  | '+' => now ||| bits
  | '-' => kept bits
  | _ => kept c.whom ||| bits

/-- Permissions after changes. -/
def applyAll (old : Nat) (changes : List PermissionChange) : Nat :=
  changes.foldl (apply old) old

/-- Reads the operators of a clause with their letters. -/
def actions (allowed : Bytes) (whom granted : Nat) :
    (fuel : Nat) → Bytes → List PermissionChange × Bytes
  | fuel + 1, c :: rest =>
    if ['+', '-', '='].contains c then
      let letters := rest.takeWhile allowed.contains
      let (more, rest) := actions allowed whom granted fuel (rest.drop letters.length)
      (⟨whom, granted, c, letters⟩ :: more, rest)
    else ([], c :: rest)
  | _, cs => ([], cs)

/-- Reads a symbolic mode with clauses between commas; one that names no users is for all of them,
but may give only what is granted. -/
def ofText? (allowed : Bytes) (granted : Nat) :
    (fuel : Nat) → Bytes → Option (List PermissionChange)
  | 0, _ | _, [] => some []
  | fuel + 1, cs =>
    let users := cs.takeWhile ['u', 'g', 'o', 'a'].contains
    let named := users.foldl (fun bits c => bits ||| Permission.whom c) 0
    let whom := if users.isEmpty then 0o7777 else named
    let rest := cs.drop users.length
    let (found, behind) :=
      actions allowed whom (if users.isEmpty then granted else named) (rest.length + 1) rest
    match found.isEmpty, rest, behind with
    | true, [], _ => some []
    | false, _, [] => some found
    | false, _, ',' :: more => (ofText? allowed granted fuel more).map (found ++ ·)
    | _, _, _ => none

end PermissionChange

namespace Permission

/-- Permissions after a symbolic mode, which gives to those that it does not name only what is
granted. -/
def changeWith? (allowed : Bytes) (granted old : Nat) (mode : Bytes) : Option Nat :=
  (PermissionChange.ofText? allowed granted (mode.length + 1) mode).map
    (PermissionChange.applyAll old)

/-- Permissions after a symbolic mode. -/
def change? (allowed : Bytes) (old : Nat) (mode : Bytes) : Option Nat :=
  changeWith? allowed all old mode

/-- Permissions in symbolic form. -/
def symbolic (bits : Nat) : String :=
  let letters := fun (n : Nat) =>
    (if 4 ≤ n then "r" else "") ++ (if 2 ≤ n % 4 then "w" else "") ++
      (if n % 2 = 1 then "x" else "")
  s!"u={letters (bits / 64 % 8)},g={letters (bits / 8 % 8)},o={letters (bits % 8)}"

end Permission

end UseCase.Shell
