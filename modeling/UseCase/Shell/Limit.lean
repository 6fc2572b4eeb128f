import UseCase.Text.Bytes

/-!
# Limits

The limits for what a process may use. Each has a bound that holds and one up to which the process
may raise it; the latter can only be lowered.
-/

namespace UseCase.Shell

open Text (Bytes)

/-- A limit; a bound that is missing does not bind. -/
structure Limit where
  letter : Char
  title : String
  soft : Option Nat
  hard : Option Nat
  deriving DecidableEq, Repr

namespace Limit

/-- The limits of a new process. -/
def standard : List Limit :=
  [⟨'t', "time(seconds)", none, none⟩, ⟨'f', "file(blocks)", none, none⟩,
    ⟨'d', "data(kbytes)", none, none⟩, ⟨'s', "stack(kbytes)", some 8192, none⟩,
    ⟨'c', "coredump(blocks)", some 0, none⟩, ⟨'m', "memory(kbytes)", none, none⟩,
    ⟨'l', "locked memory(kbytes)", some 8192, some 8192⟩, ⟨'p', "process", none, none⟩,
    ⟨'n', "nofiles", some 1048576, some 1048576⟩, ⟨'v', "vmemory(kbytes)", none, none⟩,
    ⟨'w', "locks", none, none⟩, ⟨'r', "rtprio", some 0, some 0⟩]

/-- Whether a bound is at most another one. -/
def within (a b : Option Nat) : Bool :=
  match a, b with
  | _, none => true
  | some m, some n => m ≤ n
  | none, some _ => false

/-- The limit with other bounds, or why it cannot have them. -/
def set (l : Limit) (isSoft isHard : Bool) (bound : Option Nat) : Except String Limit :=
  let soft := if isSoft then bound else l.soft
  let hard := if isHard then bound else l.hard
  if !within soft hard then .error "Invalid argument"
  else if !within hard l.hard then .error "Operation not permitted"
  else .ok { l with soft := soft, hard := hard }

/-- The text of a bound. -/
def text (bound : Option Nat) : String :=
  match bound with
  | none => "unlimited"
  | some n => toString n

/-- The limit as a line of a table. -/
def row (l : Limit) (isSoft : Bool) : String :=
  let gap := String.ofList (List.replicate (20 - l.title.length) ' ')
  l.title ++ gap ++ " " ++ text (if isSoft then l.soft else l.hard) ++ "\n"

/-- The bound that a text writes. -/
def bound? (cs : Bytes) : Option (Option Nat) :=
  if cs = "unlimited".toList then some none
  else if cs.all Char.isDigit then some (some (cs.foldl (fun n c => 10 * n + (c.toNat - 48)) 0))
  else none

end Limit

end UseCase.Shell
