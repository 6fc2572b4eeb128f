import UseCase.Query

/-!
# Listings

The identifiers of lists: the cards, the verbs, the entities of a verb, its tone qualities, the
active entities, and what a device or modifier defines. The last sort takes the same scope as a
value identifier.
-/

namespace UseCase

/-- What is listed about an anchor. -/
inductive Aspect where
  /-- The names of its values. -/
  | identifiers
  | supportedDevices
  | conflictingDevices
  deriving DecidableEq, Repr

/-- A question for a list. -/
inductive Listing where
  | cards
  | verbs
  | entities (kind : Kind) (verb : Option String)
  | toneQualities (verb : Option String)
  | active (kind : Kind)
  | about (aspect : Aspect) (anchor : Anchor) (verb : VerbSelector)
  deriving DecidableEq, Repr

namespace Listing

/-- The aspect that a word stands for. -/
def aspect? (word : List Char) : Option Aspect :=
  if word = "_identifiers".toList then some .identifiers
  else if word = "_supporteddevs".toList then some .supportedDevices
  else if word = "_conflictingdevs".toList then some .conflictingDevices
  else none

/-- The verb after the first slash, if there is one. -/
def verbArgument (identifier : String) : Option (List Char) → Except Fault (Option String)
  | none | some [] => .ok none
  | some name =>
    if name.contains '/' then .error (.invalid (.segments identifier))
    else .ok (some (String.ofList name))

/-- Reads a listing about an anchor. -/
def parseAbout (aspect : Aspect) (identifier : String) : Except Fault Listing := do
  let (_, scope) ← Scope.parse identifier.toList
  match scope.anchor with
  | some anchor => return about aspect anchor scope.verb
  | none => throw (.invalid (.anchorNeeded identifier))

/-- Reads a listing from its word and what follows the first slash. -/
def parseWord (identifier : String) (word : List Char) (rest : Option (List Char)) :
    Except Fault Listing :=
  if word = "_verbs".toList ∧ rest = none then .ok verbs
  else if word = "_devices".toList then entities .device <$> verbArgument identifier rest
  else if word = "_modifiers".toList then entities .modifier <$> verbArgument identifier rest
  else if word = "TQ".toList then toneQualities <$> verbArgument identifier rest
  else if word = "_enadevs".toList ∧ rest = none then .ok (active .device)
  else if word = "_enamods".toList ∧ rest = none then .ok (active .modifier)
  else match aspect? word, rest with
    | some aspect, some _ => parseAbout aspect identifier
    | _, _ => .error (.invalid (.unknownListing identifier))

/-- Reads the identifier of a list; without one the cards are listed. -/
def parse (identifier : Option String) : Except Fault Listing :=
  match identifier with
  | none | some "" => .ok cards
  | some text =>
    match Text.cut '/' text.toList with
    | some (word, rest) => parseWord text word (some rest)
    | none => parseWord text text.toList none

end Listing

end UseCase
