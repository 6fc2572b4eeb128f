import UseCase.Fault
import UseCase.Text.Split

/-!
# Commands

The changes that `set` can make, and their identifiers. Every name in a command that was read is
non-empty. A switch has the old name behind a slash and the new one as its value; any further slash
belongs to the old name.
-/

namespace UseCase

/-- A change of the activation. -/
inductive Command where
  | fixedBoot
  | boot
  | defaults
  | setVerb (name : String)
  | enable (kind : Kind) (name : String)
  | disable (kind : Kind) (name : String)
  | switch (kind : Kind) (old new : String)
  deriving DecidableEq, Repr

namespace Command

/-- A command that takes its value and nothing else. -/
def valued? (word : List Char) : Option (String → Command) :=
  if word = "_verb".toList then some setVerb
  else if word = "_enadev".toList then some (enable .device)
  else if word = "_disdev".toList then some (disable .device)
  else if word = "_enamod".toList then some (enable .modifier)
  else if word = "_dismod".toList then some (disable .modifier)
  else none

/-- A command that takes no value; one that is given is ignored. -/
def plain? (word : List Char) : Option Command :=
  if word = "_fboot".toList then some fixedBoot
  else if word = "_boot".toList then some boot
  else if word = "_defaults".toList then some defaults
  else none

/-- The kind of entity that a word switches. -/
def switchKind? (word : List Char) : Option Kind :=
  if word = "_swdev".toList then some .device
  else if word = "_swmod".toList then some .modifier
  else none

/-- The value of a command that needs one. -/
def required (identifier : String) : Option String → Except Fault String
  | none | some "" => .error (.invalid (.valueNeeded identifier))
  | some value => .ok value

/-- Reads a command from its identifier and value. -/
def parse (identifier : String) (value : Option String) : Except Fault Command :=
  match Text.cut '/' identifier.toList with
  | none =>
    match plain? identifier.toList, valued? identifier.toList with
    | some command, _ => .ok command
    | none, some command => command <$> required identifier value
    | none, none => .error (.invalid (.unknownCommand identifier))
  | some (word, old) =>
    match switchKind? word with
    | some kind =>
      if old = [] then .error (.invalid (.unknownCommand identifier))
      else switch kind (String.ofList old) <$> required identifier value
    | none => .error (.invalid (.unknownCommand identifier))

end Command

end UseCase
