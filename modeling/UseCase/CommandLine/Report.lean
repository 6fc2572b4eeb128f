import UseCase.Fault
import UseCase.Text.Split

/-!
# Failure reports

A program that fails tells what it was doing, and below that the causes from the nearest to the
farthest one. A single cause stands by itself, several are numbered; further lines of a cause are
indented.
-/

namespace UseCase.CommandLine

/-- A failure with its causes. -/
structure Report where
  message : String
  causes : List String
  deriving DecidableEq, Repr

namespace Report

/-- The report of a fault. What the system or the TOML reader refused is a cause of its own. -/
def ofFault (f : Fault) : Report :=
  match f with
  | .system cause => ⟨f.message, [cause.message]⟩
  | .toml cause => ⟨f.message, [cause.detail]⟩
  | _ => ⟨f.message, []⟩

/-- The report of a failure without a cause. -/
def plain (message : String) : Report := ⟨message, []⟩

/-- The report of a failure while something was being done. -/
def during (what : String) (r : Report) : Report := ⟨what, r.message :: r.causes⟩

/-- The lines of a text, the first one behind `head` and the others behind `indent`. -/
def hang (head indent cause : String) : String :=
  let lines := (Text.segments '\n' cause.toList).map String.ofList
  head ++ ("\n" ++ indent).intercalate lines

/-- A numbered cause. -/
def numbered (number : Nat) (cause : String) : String :=
  let digits := toString number
  hang ("".pushn ' ' (5 - digits.length) ++ digits ++ ": ") "       " cause

/-- The causes below the message. -/
def causesText : List String → String
  | [] => ""
  | [cause] => "\n\nCaused by:\n" ++ hang "    " "    " cause
  | causes => "\n\nCaused by:" ++
    String.join (causes.zipIdx.map fun (cause, number) => "\n" ++ numbered number cause)

/-- What is told. -/
def text (r : Report) : String :=
  "Error: " ++ r.message ++ causesText r.causes ++ "\n"

end Report

end UseCase.CommandLine
