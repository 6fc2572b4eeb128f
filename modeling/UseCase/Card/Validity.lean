import UseCase.Fault

/-!
# Valid card descriptions

`Card.validate` accepts a description in which the card and all verbs, devices and modifiers have
names, no two verbs share a name, no two devices and no two modifiers of one verb do, and every
priority lies in the allowed range. A device and a modifier may share a name. The first violation in
the order of the description is reported; a missing name before a repeated one, and both before the
priority.
-/

namespace UseCase.Card

/-- Checks the entities of one kind; `seen` are the names that came before. -/
def validateEntities (verb : String) (kind : Kind) (seen : List String) :
    List Entity → Except Defect Unit
  | [] => .ok ()
  | e :: rest =>
    if e.name.isEmpty then .error (.namelessEntity kind verb)
    else if seen.contains e.name then .error (.duplicateEntity kind e.name verb)
    else if e.priority < Entity.minPriority ∨ Entity.maxPriority < e.priority then
      .error (.priorityOutside kind e.name e.priority)
    else validateEntities verb kind (e.name :: seen) rest

/-- Checks the verbs; `seen` are the names that came before. -/
def validateVerbs (seen : List String) : List Verb → Except Defect Unit
  | [] => .ok ()
  | v :: rest =>
    if v.name.isEmpty then .error .namelessVerb
    else if seen.contains v.name then .error (.duplicateVerb v.name)
    else do
      validateEntities v.name .device [] v.devices
      validateEntities v.name .modifier [] v.modifiers
      validateVerbs (v.name :: seen) rest

/-- The first defect of a description, if it has one. -/
def check (c : Card) : Except Defect Unit :=
  if c.info.name.isEmpty then .error .namelessCard else validateVerbs [] c.verbs

/-- Accepts exactly the valid descriptions. -/
def validate (c : Card) : Except Fault Unit :=
  c.check.mapError .configuration

end UseCase.Card
