import UseCase.Text.Bytes

/-!
# Settings of a shell

A shell has settings that are on or off. Most of them have a letter besides their name; a parameter
shows the letters of those that are on.
-/

namespace UseCase.Shell

open Text (Bytes)

/-- A setting of a shell. -/
inductive Setting where
  | errexit | noglob | ignoreeof | interactive | monitor | noexec | stdin | xtrace | verbose | vi
  | emacs | noclobber | allexport | notify | nounset | privileged | nolog | debug
  deriving DecidableEq, Repr

namespace Setting

/-- All settings, in the order in which they are listed. -/
def all : List Setting :=
  [errexit, noglob, ignoreeof, interactive, monitor, noexec, stdin, xtrace, verbose, vi, emacs,
    noclobber, allexport, notify, nounset, privileged, nolog, debug]

/-- The name of a setting. -/
def name : Setting → String
  | errexit => "errexit"
  | noglob => "noglob"
  | ignoreeof => "ignoreeof"
  | interactive => "interactive"
  | monitor => "monitor"
  | noexec => "noexec"
  | stdin => "stdin"
  | xtrace => "xtrace"
  | verbose => "verbose"
  | vi => "vi"
  | emacs => "emacs"
  | noclobber => "noclobber"
  | allexport => "allexport"
  | notify => "notify"
  | nounset => "nounset"
  | privileged => "privileged"
  | nolog => "nolog"
  | debug => "debug"

/-- The letter of a setting. -/
def letter? : Setting → Option Char
  | errexit => some 'e'
  | noglob => some 'f'
  | ignoreeof => some 'I'
  | interactive => some 'i'
  | monitor => some 'm'
  | noexec => some 'n'
  | stdin => some 's'
  | xtrace => some 'x'
  | verbose => some 'v'
  | vi => some 'V'
  | emacs => some 'E'
  | noclobber => some 'C'
  | allexport => some 'a'
  | notify => some 'b'
  | nounset => some 'u'
  | privileged => some 'p'
  | nolog | debug => none

/-- The setting with a letter. -/
def ofLetter? (c : Char) : Option Setting :=
  all.find? fun s => s.letter? == some c

/-- The setting with a name. -/
def ofName? (name : String) : Option Setting :=
  all.find? fun s => s.name == name

/-- The settings after one was turned on or off. There is no terminal that jobs could be controlled
from. -/
def turn (s : Setting) (isOn : Bool) (settings : List Setting) : List Setting :=
  let others := settings.filter (· != s)
  if isOn && s != monitor then s :: others else others

/-- The settings without those that print what the shell reads and runs. -/
def quiet (settings : List Setting) : List Setting :=
  settings.filter fun s => s != xtrace && s != verbose

/-- The settings after one was turned on or off by its letter: of the two ways to edit lines one
then takes the place of the other. -/
def turnAlone (s : Setting) (isOn : Bool) (settings : List Setting) : List Setting :=
  let settings := s.turn isOn settings
  if isOn && s == vi then emacs.turn false settings
  else if isOn && s == emacs then vi.turn false settings
  else settings

/-- The letters of settings that are on. -/
def letters (settings : List Setting) : Bytes :=
  (all.filter settings.contains).reverse.filterMap letter?

/-- All settings with what they are, as a table. -/
def table (settings : List Setting) : String :=
  "Current option settings\n" ++ String.join (all.map fun s =>
    let gap := String.ofList (List.replicate (16 - s.name.length) ' ')
    s.name ++ gap ++ (if settings.contains s then "on" else "off") ++ "\n")

/-- The commands that turn all settings to what they are. -/
def commands (settings : List Setting) : String :=
  String.join (all.map fun s =>
    "set " ++ (if settings.contains s then "-o " else "+o ") ++ s.name ++ "\n")

end Setting

end UseCase.Shell
