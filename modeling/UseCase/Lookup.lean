import UseCase.Activation
import UseCase.Name
import UseCase.Query
import UseCase.Ranking

/-!
# Looking up values

A value is looked for in scopes, from the most to the least specific one: the entity that the anchor
names; for well-known names without an anchor, the active modifiers and then the active devices; the
verb; the defaults of the card. An exact query consults one scope only.

An anchor may match several entities. Its pool consists of those that are active, by priority, or of
all of them in the order of the description if none is active. Which of them are active is looked up
under the kind that the first of them says it has. In a card in which every entity is listed under
its own kind this is the kind that was searched; else nothing active is found among them.
-/

namespace UseCase

/-- Value names that are looked for in the active entities even without an anchor. -/
def wellKnownNames : List String :=
  ["TQ", "Priority", "PlaybackPCM", "PlaybackPCMIsDummy", "PlaybackMixer", "PlaybackMixerElem",
    "PlaybackMasterElem", "PlaybackMasterType", "PlaybackVolume", "PlaybackSwitch",
    "PlaybackPriority", "PlaybackCTL", "PlaybackChannels", "PlaybackRate", "CapturePCM",
    "CapturePCMIsDummy", "CaptureMixer", "CaptureMixerElem", "CaptureMasterElem",
    "CaptureMasterType", "CaptureVolume", "CaptureSwitch", "CapturePriority", "CaptureCTL",
    "CaptureChannels", "CaptureRate", "EDIDFile", "JackCTL", "JackControl", "JackDev", "JackHWMute",
    "MinBufferLevel"]

/-- Whether a value name is well known. -/
def isWellKnown (name : String) : Bool :=
  wellKnownNames.contains name

namespace Lookup

/-- The verb that a query is about, with its position. -/
structure Target where
  index : Nat
  verb : Verb

/-- The entities that an anchor matches: positions among those of one kind. -/
structure Candidates where
  kind : Kind
  indices : List Nat
  deriving DecidableEq, Repr

/-- The positions of the entities that satisfy `p`. -/
def positions (p : Entity → Bool) (entities : List Entity) : List Nat :=
  (entities.zipIdx.filter fun (e, _) => p e).map Prod.snd

/-- The entities that a name addresses: the one of exactly this name; else those whose names differ
in blanks only; else those whose stems do. -/
def matching (entities : List Entity) (name : String) : List Nat :=
  match entities.findIdx? fun e => e.name == name with
  | some index => [index]
  | none =>
    let wanted := Name.key name
    match positions (fun e => Name.key e.name == wanted) entities with
    | [] => positions (fun e => Name.stemKey e.name == wanted) entities
    | found => found

/-- The kinds that an anchor may name, in the order in which they are tried. -/
def kinds : AnchorKind → List Kind
  | .any => [.modifier, .device]
  | .device => [.device]

/-- The candidates of the first kind that has any. -/
def candidatesAmong (v : Verb) (name : String) : List Kind → Option Candidates
  | [] => none
  | kind :: rest =>
    match matching (v.entities kind) name with
    | [] => candidatesAmong v name rest
    | found => some ⟨kind, found⟩

/-- The entities that an anchor matches in a verb. -/
def candidates (v : Verb) (anchor : Anchor) : Except Fault Candidates :=
  match candidatesAmong v anchor.name (kinds anchor.kind) with
  | some found => .ok found
  | none => .error (.notFound (.anchor anchor.name v.name))

/-- The active positions of a kind in the target, none unless it is the active verb. -/
def activeIn (a : Activation) (t : Target) (kind : Kind) : List Nat :=
  if a.verb = some t.index then a.active kind else []

/-- The entities at some positions. -/
def entitiesAt (t : Target) (kind : Kind) (indices : List Nat) : List Entity :=
  indices.filterMap (t.verb.entity? kind)

/-- Whether the entity at a position among those of a kind is a candidate. -/
def Candidates.has (found : Candidates) (kind : Kind) (index : Nat) : Bool :=
  kind == found.kind && found.indices.contains index

/-- The candidates in order of preference. -/
def pool (a : Activation) (t : Target) (found : Candidates) : List Entity :=
  match entitiesAt t found.kind found.indices with
  | [] => []
  | first :: others =>
    match entitiesAt t first.kind ((activeIn a t first.kind).filter (found.has first.kind)) with
    | [] => first :: others
    | active => Ranking.rank active

/-- The entity of an anchor that provides a value; a single candidate is taken whether it does or
not. -/
def holder? (a : Activation) (t : Target) (found : Candidates) (name : String) : Option Entity :=
  match found.indices with
  | [index] => t.verb.entity? found.kind index
  | _ => Ranking.select? (pool a t found) name

/-- The value of a name in an anchor. -/
def anchored (a : Activation) (t : Target) (anchor : Anchor) (name : String) :
    Except Fault (Option String) := do
  let found ← candidates t.verb anchor
  return (holder? a t found name).bind fun e => e.values.get? name

/-- The verb that a selector means; the active one unless a name is given. -/
def target (c : Card) (a : Activation) : VerbSelector → Except Fault (Option Target)
  | .unspecified | .current =>
    .ok (a.verb.bind fun index => (c.verb? index).map fun v => ⟨index, v⟩)
  | .named name =>
    match c.findVerb? name with
    | some index => .ok ((c.verb? index).map fun v => ⟨index, v⟩)
    | none => .error (.notFound (.verb name))

/-- The target, which an anchor needs. -/
def require (t : Option Target) (anchor : Anchor) : Except Fault Target :=
  match t with
  | some t => .ok t
  | none => .error (.notFound (.scope anchor.name))

/-- The value that active entities provide for a well-known name. -/
def fromActive (a : Activation) (t : Target) (name : String) : Option String :=
  let provider := fun kind => Ranking.select? (entitiesAt t kind (activeIn a t kind)) name
  ((provider .modifier).or (provider .device)).bind fun e => e.values.get? name

/-- The value in the verb or else in the defaults. -/
def fromVerb (c : Card) (t : Option Target) (name : String) : Option String :=
  (t.bind fun t => t.verb.values.get? name).or (c.defaults.get? name)

/-- The answer of the single scope that an exact query names. -/
def exactly (c : Card) (a : Activation) (t : Option Target) (q : ValueQuery) :
    Except Fault (Option String) :=
  match q.anchor, q.verb, t with
  | some anchor, _, _ => do
    let t ← require t anchor
    anchored a t anchor q.name
  | none, .unspecified, _ => .ok (c.defaults.get? q.name)
  | none, _, some t => .ok (t.verb.values.get? q.name)
  | none, _, none => .error (.notFound .activeVerb)

/-- The first answer of the scopes from the most to the least specific one. -/
def cascade (c : Card) (a : Activation) (t : Option Target) (q : ValueQuery) :
    Except Fault (Option String) :=
  match q.anchor, t with
  | some anchor, _ => do
    let known ← require t anchor
    let value ← anchored a known anchor q.name
    return value.or (fromVerb c t q.name)
  | none, some known =>
    let value := if isWellKnown q.name then fromActive a known q.name else none
    .ok (value.or (fromVerb c t q.name))
  | none, none => .ok (fromVerb c none q.name)

/-- The value that a query asks for. -/
def resolve (c : Card) (a : Activation) (q : ValueQuery) : Except Fault String := do
  let t ← target c a q.verb
  let found ← if q.exact then exactly c a t q else cascade c a t q
  match found with
  | some value => return value
  | none => throw (.notFound (.value q.name))

/-- The entity that an anchor stands for. -/
def anchorEntity (c : Card) (a : Activation) (verb : VerbSelector) (anchor : Anchor) :
    Except Fault Entity := do
  let t ← target c a verb
  let t ← require t anchor
  let found ← candidates t.verb anchor
  match pool a t found with
  | e :: _ => return e
  | [] => throw (.notFound (.anchor anchor.name t.verb.name))

end Lookup

end UseCase
