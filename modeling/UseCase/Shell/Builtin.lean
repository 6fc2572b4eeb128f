import UseCase.Shell.Builtin.Surroundings

/-!
# Commands of the shell

The commands that are a part of the shell, since they read or change its own state, by their names.
The special ones end the shell when they are used wrongly, and what is assigned in front of them
stays.
-/

namespace UseCase.Shell.Builtin

/-- The special commands of the shell. -/
def special? (name : String) : Option Builtin :=
  match name with
  | ":" => some idle
  | "." => some source
  | "break" => some out
  | "continue" => some again
  | "eval" => some evaluate
  | "exit" => some exit
  | "export" => some exportNames
  | "local" => some localNames
  | "readonly" => some readonlyNames
  | "return" => some back
  | "set" => some set
  | "shift" => some shift
  | "times" => some times
  | "trap" => some trap
  | "unset" => some unset
  | _ => none

/-- The other commands of the shell. -/
def regular? (name : String) : Option Builtin :=
  match name with
  | "true" => some idle
  | "false" => some fun _ _ _ => return 1
  | "echo" => some echo
  | "printf" => some printFormatted
  | "test" => some (test false)
  | "[" => some (test true)
  | "cd" | "chdir" => some changeDirectory
  | "pwd" => some printWorking
  | "read" => some read
  | "getopts" => some getOption
  | "kill" => some kill
  | "wait" => some wait
  | "jobs" => some listJobs
  | "bg" | "fg" => some withoutJobs
  | "umask" => some umask
  | "ulimit" => some ulimit
  | "alias" => some aliasing
  | "unalias" => some unalias
  | _ => none

end UseCase.Shell.Builtin
