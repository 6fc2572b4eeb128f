import UseCase.Catalog
import UseCase.CommandLine.Output
import UseCase.CommandLine.Report
import UseCase.CommandLine.Words
import UseCase.Mixer
import UseCase.Session

/-!
# Batches

A request is a command for an open card. A batch is a text with one request on each line; blank
lines and those that begin with a number sign are passed over. The lines are carried out in order,
each one prints its answer at once, and the first one that fails ends the batch with its number.
-/

namespace UseCase.CommandLine

/-- A command for an open card. -/
inductive Request where
  | list (identifier : Option String)
  | get (identifier : String)
  | geti (identifier : String)
  | set (identifier : String) (value : Option String)
  | status
  | reset
  | reload
  deriving DecidableEq, Repr

/-- A card that is open on a desk. -/
abbrev Desktop := Session Desk

/-- Acts on the host of a desktop alone. -/
def onHost {ε α : Type} (x : EStateM ε Host α) : EStateM ε Desktop α :=
  onPart (fun s => s.rig.surface.host)
    (fun s h => { s with rig := { s.rig with surface := { s.rig.surface with host := h } } }) x

/-- Prints something. -/
def print {ε : Type} (text : String) : EStateM ε Desktop Unit :=
  onHost (modify fun h => h.emit (.print text))

namespace Request

/-- The request that words write; what a request does not need is ignored, unless it needs nothing.
-/
def ofWords? : List String → Option Request
  | "list" :: rest => some (list rest.head?)
  | "get" :: identifier :: _ => some (get identifier)
  | "geti" :: identifier :: _ => some (geti identifier)
  | "set" :: identifier :: rest => some (set identifier rest.head?)
  | ["status"] => some status
  | ["reset"] => some reset
  | ["reload"] => some reload
  | _ => none

/-- Carries out a request. -/
def answer (l : Loader Desk) : Request → Session.Op Desk (Option Output)
  | list identifier => do return some (.list (← Session.list l identifier))
  | get identifier => do return some (.text (← ofExcept ((← MonadState.get).get identifier)))
  | geti identifier => do return some (.integer (← ofExcept ((← MonadState.get).geti identifier)))
  | set identifier value => do
    Session.set Desk.backend identifier value
    return none
  | status => do return some (.status (← MonadState.get).status)
  | reset => do
    Session.reset Desk.backend
    return none
  | reload => do
    Session.reload l
    return none

/-- Carries out a request and prints its answer. -/
def run (l : Loader Desk) (asJson : Bool) (r : Request) : EStateM Report Desktop Unit := do
  match ← (answer l r).adaptExcept Report.ofFault with
  | some output => print (output.render asJson)
  | none => pure ()

end Request

namespace Batch

/-- Whether a trimmed line is passed over. -/
def isIdle (line : List Char) : Bool :=
  line.isEmpty || line.head? == some '#'

/-- Carries out the words of a line. -/
def runWords (l : Loader Desk) (asJson : Bool) (words : List String) :
    EStateM Report Desktop Unit :=
  match Request.ofWords? words with
  | some request => request.run l asJson
  | none => throw (.plain ("unrecognised command: " ++ " ".intercalate words))

/-- Carries out a trimmed line. -/
def runLine (l : Loader Desk) (asJson : Bool) (number : Nat) (line : String) :
    EStateM Report Desktop Unit :=
  match words? line with
  | none => throw ((Report.plain "unterminated quote").during s!"line {number}")
  | some words => (runWords l asJson words).adaptExcept (Report.during s!"line {number}: {line}")

/-- Carries out lines; the first one has the given number. -/
def runLines (l : Loader Desk) (asJson : Bool) :
    (number : Nat) → List (List Char) → EStateM Report Desktop Unit
  | _, [] => pure ()
  | number, line :: rest => do
    let line := Text.trim line
    unless isIdle line do runLine l asJson number (String.ofList line)
    runLines l asJson (number + 1) rest

/-- Carries out a batch. -/
def run (l : Loader Desk) (asJson : Bool) (text : String) : EStateM Report Desktop Unit :=
  runLines l asJson 1 (Text.lines text.toList)

end Batch

end UseCase.CommandLine
