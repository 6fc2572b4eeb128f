import UseCase.Text.Numeral

/-!
# Endings and signals

A command line ends with a status or by a signal. Signals have numbers and names; a few of them do
nothing to a process that is not prepared for them.
-/

namespace UseCase.Shell

/-- How a command line ended. -/
inductive Ending where
  | exited (status : Nat)
  | killed (signal : Nat)
  deriving DecidableEq, Repr

namespace Signal

/-- The signals by number. -/
def names : List (Nat × String) :=
  [(1, "HUP"), (2, "INT"), (3, "QUIT"), (4, "ILL"), (5, "TRAP"), (6, "ABRT"), (7, "BUS"),
    (8, "FPE"), (9, "KILL"), (10, "USR1"), (11, "SEGV"), (12, "USR2"), (13, "PIPE"), (14, "ALRM"),
    (15, "TERM"), (16, "STKFLT"), (17, "CHLD"), (18, "CONT"), (19, "STOP"), (20, "TSTP"),
    (21, "TTIN"), (22, "TTOU"), (23, "URG"), (24, "XCPU"), (25, "XFSZ"), (26, "VTALRM"),
    (27, "PROF"), (28, "WINCH"), (29, "IO"), (30, "PWR"), (31, "SYS")]

/-- The name of a signal. -/
def name? (number : Nat) : Option String :=
  (names.find? fun (n, _) => n == number).map Prod.snd

/-- The name by which shells know a signal: some are known only by their number, and those that have
no fixed use are counted from both ends. -/
def label (number : Nat) : String :=
  if number = 34 then "RTMIN"
  else if 34 < number ∧ number < 50 then s!"RTMIN+{number - 34}"
  else if 50 ≤ number ∧ number < 64 then s!"RTMAX-{64 - number}"
  else if number = 64 then "RTMAX"
  else if number = 16 then "16"
  else (name? number).getD (toString number)

/-- The number of a signal that is given by number or name, in letters of either case. Zero asks
only whether a process is there, and stands for the end of a shell where actions are set. -/
def ofText? (text : String) : Option Nat :=
  ((Text.digits? text.toList).filter (· ≤ 64)).or
    ((List.range 65).find? fun n => label n == text.toUpper)

/-- What a signal is called at length. -/
def title (number : Nat) : String :=
  match number with
  | 1 => "Hangup"
  | 2 => "Interrupt"
  | 3 => "Quit"
  | 4 => "Illegal instruction"
  | 5 => "Trace/breakpoint trap"
  | 6 => "Aborted"
  | 7 => "Bus error"
  | 8 => "Floating point exception"
  | 9 => "Killed"
  | 10 => "User defined signal 1"
  | 11 => "Segmentation fault"
  | 12 => "User defined signal 2"
  | 13 => "Broken pipe"
  | 14 => "Alarm clock"
  | 15 => "Terminated"
  | 16 => "Stack fault"
  | 24 => "CPU time limit exceeded"
  | 25 => "File size limit exceeded"
  | 26 => "Virtual timer expired"
  | 27 => "Profiling timer expired"
  | 29 => "I/O possible"
  | 30 => "Power failure"
  | 31 => "Bad system call"
  | n => if 34 ≤ n ∧ n ≤ 64 then s!"Real-time signal {n - 34}" else s!"Unknown signal {n}"

/-- What is told about a process that a signal has ended; nothing if somebody interrupted it or no
longer read its output. -/
def description (number : Nat) : String :=
  if number = 2 ∨ number = 13 then "" else title number

/-- The signal that ends a process unless another is named. -/
def terminate : Nat := 15

/-- The signal of a process that has used up its memory for calls. -/
def overflow : Nat := 11

/-- The signal of a process that has divided numbers without a quotient that fits. -/
def quotient : Nat := 8

/-- Whether a signal does nothing to a process without an action for it. -/
def isIdle (number : Nat) : Bool :=
  [0, 17, 18, 23, 28].contains number

/-- Whether no action can be set for a signal. -/
def isFixed (number : Nat) : Bool :=
  [9, 19].contains number

end Signal

namespace Ending

/-- The wording for the end of a command line. -/
def text : Ending → String
  | exited status => s!"exit status: {status}"
  | killed signal =>
    match Signal.name? signal with
    | some name => s!"signal: {signal} (SIG{name})"
    | none => s!"signal: {signal}"

/-- The status by which a shell knows how a command ended. -/
def status : Ending → Nat
  | exited status => status
  | killed signal => 128 + signal

end Ending

end UseCase.Shell
