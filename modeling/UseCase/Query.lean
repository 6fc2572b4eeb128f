import UseCase.Fault
import UseCase.Text.Split

/-!
# Value queries

A value is asked for by an identifier of the form `NAME`, `NAME/ANCHOR/VERB` or
`NAME//DEVICE/VERB`, with an equals sign in front to consult exactly one scope. The anchor is a
device or modifier. An empty verb means the active one, and an empty anchor none:

* `NAME` has no anchor and no verb,
* `NAME/ANCHOR` and `NAME/ANCHOR/` mean the active verb,
* `NAME//VERB` has no anchor,
* `NAME//DEVICE/` and `NAME//DEVICE/VERB` allow a device only.
-/

namespace UseCase

/-- What an anchor may name. -/
inductive AnchorKind where
  /-- A modifier or else a device. -/
  | any
  | device
  deriving DecidableEq, Repr

/-- The device or modifier that a query is about. -/
structure Anchor where
  kind : AnchorKind
  name : String
  deriving DecidableEq, Repr

/-- The verb that a query is about. -/
inductive VerbSelector where
  /-- The identifier has no part for the verb. -/
  | unspecified
  /-- The part for the verb is empty. -/
  | current
  | named (name : String)
  deriving DecidableEq, Repr

/-- The scope that follows a name: an anchor and a verb. -/
structure Scope where
  anchor : Option Anchor
  verb : VerbSelector
  deriving DecidableEq, Repr

namespace Scope

/-- The anchor that a segment names. -/
def anchorOf (segment : List Char) : Option Anchor :=
  if segment = [] then none else some ⟨.any, String.ofList segment⟩

/-- The verb that a segment names. -/
def verbOf (segment : List Char) : VerbSelector :=
  if segment = [] then .current else .named (String.ofList segment)

/-- The scope of the segments that follow the name. -/
def ofSegments? : List (List Char) → Option Scope
  | [] => some ⟨none, .unspecified⟩
  | [anchor] => some ⟨anchorOf anchor, .current⟩
  | [anchor, verb] => some ⟨anchorOf anchor, verbOf verb⟩
  | [[], device, verb] =>
    if device = [] then none else some ⟨some ⟨.device, String.ofList device⟩, verbOf verb⟩
  | _ => none

/-- Reads a name with its scope. -/
def parse (identifier : List Char) : Except Fault (List Char × Scope) :=
  match Text.segments '/' identifier with
  | [] => .error (.invalid (.segments (String.ofList identifier)))
  | name :: rest =>
    match ofSegments? rest with
    | none => .error (.invalid (.segments (String.ofList identifier)))
    | some scope =>
      if name = [] then .error (.invalid (.emptyName (String.ofList identifier)))
      else .ok (name, scope)

end Scope

/-- A question for the value of a name. -/
structure ValueQuery where
  name : String
  anchor : Option Anchor
  verb : VerbSelector
  /-- Whether exactly one scope is consulted. -/
  exact : Bool
  deriving DecidableEq, Repr

namespace ValueQuery

/-- Reads the part after an optional equals sign. -/
def parseScoped (exact : Bool) (identifier : List Char) : Except Fault ValueQuery := do
  let (name, scope) ← Scope.parse identifier
  return ⟨String.ofList name, scope.anchor, scope.verb, exact⟩

/-- Reads a value identifier. -/
def parse (identifier : String) : Except Fault ValueQuery :=
  match identifier.toList with
  | '=' :: rest => parseScoped true rest
  | chars => parseScoped false chars

end ValueQuery

/-- A question for a text. -/
inductive TextQuery where
  | card
  | verb
  | file
  | libraryConfig
  | libraryPrefix
  | value (query : ValueQuery)
  deriving DecidableEq, Repr

/-- Reads the identifier of a text. -/
def TextQuery.parse (identifier : String) : Except Fault TextQuery :=
  match identifier with
  | "" => .ok card
  | "_verb" => .ok verb
  | "_file" => .ok file
  | "_alibcfg" => .ok libraryConfig
  | "_alibpref" => .ok libraryPrefix
  | other => value <$> ValueQuery.parse other

/-- A question for a number. -/
inductive NumberQuery where
  | status (kind : Kind) (name : String)
  | value (query : ValueQuery)
  deriving DecidableEq, Repr

namespace NumberQuery

/-- The kind whose status a word asks for. -/
def statusKind? (word : List Char) : Option Kind :=
  if word = "_devstatus".toList then some .device
  else if word = "_modstatus".toList then some .modifier
  else none

/-- Reads the identifier of a number. -/
def parse (identifier : String) : Except Fault NumberQuery :=
  let (word, name) := (Text.cut '/' identifier.toList).getD (identifier.toList, [])
  match statusKind? word with
  | some kind =>
    if name = [] then .error (.invalid (.namelessStatus identifier))
    else .ok (.status kind (String.ofList name))
  | none => value <$> ValueQuery.parse identifier

end NumberQuery

end UseCase
