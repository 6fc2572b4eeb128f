import UseCase.Activation
import UseCase.Constraint
import UseCase.Execution
import UseCase.Ranking

/-!
# Transitions

The changes of an activation: entering a verb, enabling, disabling and switching entities, and the
sequences that are run when a system starts. An entity counts as active or inactive only after the
sequence that makes it so has been completed; what a sequence wrote before it failed is not taken
back.
-/

namespace UseCase

/-- An activation together with the control surface that its sequences act on. -/
structure Rig (σ : Type) where
  activation : Activation
  surface : σ

namespace Rig

variable {σ : Type}

/-- An operation on an activation and its control surface. -/
abbrev Op (σ : Type) := EStateM Fault (Rig σ)

/-- The active verb of the card. -/
def activeVerb (c : Card) : Op σ Verb := do
  match (← get).activation.activeVerb? c with
  | some v => return v
  | none => throw (.notFound .activeVerb)

/-- The position of a named entity in a verb. -/
def position (v : Verb) (kind : Kind) (name : String) : Op σ Nat :=
  match v.find? kind name with
  | some index => pure index
  | none => throw (.notFound (.entity kind name v.name))

/-- The entity at a position of a verb. -/
def entity (v : Verb) (kind : Kind) (index : Nat) : Op σ Entity :=
  match v.entity? kind index with
  | some e => pure e
  | none => throw (.configuration (.missingEntity kind index v.name))

/-- Changes the activation alone. -/
def update (f : Activation → Activation) : Op σ Unit :=
  modify fun rig => { rig with activation := f rig.activation }

/-- Acts on the control surface alone. -/
def onSurface {ε α : Type} (x : EStateM ε σ α) : EStateM ε (Rig σ) α :=
  onPart Rig.surface (fun rig surface => { rig with surface := surface }) x

/-- Runs a sequence of the card. -/
def run (b : Backend σ) (c : Card) (label : String) (verb : Option Verb) (s : Sequence) :
    Op σ Unit :=
  onSurface (s.run b c.info.controlDevice label verb)

/-- Refuses an entity that clashes with the active devices other than `leaving`. -/
def checkBeside (v : Verb) (e : Entity) (leaving : Option Nat) : Op σ Unit := do
  let staying := (← get).activation.devices.filter fun i => some i != leaving
  let names := (staying.filterMap (v.entity? .device)).map Entity.name
  ofExcept (e.checkBeside names)

/-- Runs the enable sequence of an entity and then counts it as active. -/
def activate (b : Backend σ) (c : Card) (v : Verb) (kind : Kind) (index : Nat) : Op σ Unit := do
  let e ← entity v kind index
  run b c (e.name ++ " enable") (some v) e.enable
  update fun a => a.add kind index

/-- Runs the disable sequence of an entity and then counts it as inactive. -/
def deactivate (b : Backend σ) (c : Card) (v : Verb) (kind : Kind) (index : Nat) : Op σ Unit := do
  let e ← entity v kind index
  run b c (e.name ++ " disable") (some v) e.disable
  update fun a => a.remove kind index

/-- Deactivates entities one after the other. -/
def deactivateAll (b : Backend σ) (c : Card) (v : Verb) (kind : Kind) : List Nat → Op σ Unit
  | [] => pure ()
  | index :: rest => do
    deactivate b c v kind index
    deactivateAll b c v kind rest

/-- The priority of an entity, zero if there is none at the position. -/
def priorityAt (v : Verb) (kind : Kind) (index : Nat) : Nat :=
  match v.entity? kind index with
  | some e => e.priority
  | none => 0

/-- Deactivates all active entities of a kind, the ones of highest priority first. -/
def deactivateKind (b : Backend σ) (c : Card) (v : Verb) (kind : Kind) : Op σ Unit := do
  let active := (← get).activation.active kind
  deactivateAll b c v kind (Ranking.rankBy (priorityAt v kind) active)

/-- Leaves a verb: its modifiers, its devices, and the verb itself. -/
def leaveVerb (b : Backend σ) (c : Card) (index : Nat) : Op σ Unit :=
  match c.verb? index with
  | none => throw (.configuration (.missingVerb index))
  | some v => do
    deactivateKind b c v .modifier
    deactivateKind b c v .device
    run b c (v.name ++ " disable") (some v) v.disable
    update Activation.leave

/-- Runs the defaults sequence of the card. -/
def runDefaults (b : Backend σ) (c : Card) : Op σ Unit := do
  run b c "defaults" none c.defaultsSequence
  update fun a => { a with defaultsApplied := true }

/-- Enters a verb when none is active, after the defaults sequence unless that was run before. -/
def enterVerb (b : Backend σ) (c : Card) (name : String) (index : Nat) : Op σ Unit := do
  unless (← get).activation.defaultsApplied do runDefaults b c
  match c.verb? index with
  | none => throw (.notFound (.verb name))
  | some v => do
    run b c (v.name ++ " enable") (some v) v.enable
    update fun a => { a with verb := some index }

/-- The verb to enter for a name, none for the inactive one. -/
def target (c : Card) (name : String) : Op σ (Option Nat) :=
  if name = inactiveName then pure none
  else match c.findVerb? name with
    | some index => pure (some index)
    | none => throw (.notFound (.verb name))

/-- Leaves the active verb, if there is one, and enters the named one or none. -/
def setVerb (b : Backend σ) (c : Card) (name : String) : Op σ Unit := do
  let next ← target c name
  match (← get).activation.verb with
  | some current => leaveVerb b c current
  | none => pure ()
  match next with
  | some index => enterVerb b c name index
  | none => pure ()

/-- Enables a device or modifier of the active verb. -/
def enable (b : Backend σ) (c : Card) (kind : Kind) (name : String) : Op σ Unit := do
  let v ← activeVerb c
  let index ← position v kind name
  if (← get).activation.isActive kind index then pure ()
  else
    let e ← entity v kind index
    checkBeside v e none
    activate b c v kind index

/-- Disables a device or modifier of the active verb. -/
def disable (b : Backend σ) (c : Card) (kind : Kind) (name : String) : Op σ Unit := do
  let v ← activeVerb c
  let index ← position v kind name
  if (← get).activation.isActive kind index then deactivate b c v kind index
  else pure ()

/-- Switches between two entities of the active verb, the old one being active: through the
transition sequence of the old one if it has one for the new, else by disabling and enabling. -/
def switchActive (b : Backend σ) (c : Card) (v : Verb) (kind : Kind) (old new : String)
    (oldIndex newIndex : Nat) : Op σ Unit := do
  let oldEntity ← entity v kind oldIndex
  let newEntity ← entity v kind newIndex
  let newActive := (← get).activation.isActive kind newIndex
  unless newActive do
    checkBeside v newEntity (if kind = .device then some oldIndex else none)
  match oldEntity.transitionTo? new with
  | some s => do
    run b c (old ++ " to " ++ new ++ " transition") (some v) s
    update fun a =>
      if newActive then a.remove kind oldIndex else a.replace kind oldIndex newIndex
  | none => do
    deactivate b c v kind oldIndex
    unless newActive do activate b c v kind newIndex

/-- Makes `new` active in the place of `old`. Nothing happens if `old` is not active. -/
def switch (b : Backend σ) (c : Card) (kind : Kind) (old new : String) : Op σ Unit := do
  let v ← activeVerb c
  let oldIndex ← position v kind old
  if (← get).activation.isActive kind oldIndex then
    let newIndex ← position v kind new
    if newIndex = oldIndex then pure ()
    else switchActive b c v kind old new oldIndex newIndex
  else pure ()

/-- Runs the fixed boot sequence. -/
def runFixedBoot (b : Backend σ) (c : Card) : Op σ Unit :=
  run b c "fixed boot" none c.fixedBoot

/-- A fault of the control surface outside of any sequence, at start-up. -/
def bootFault (cause : ControlFault) : Fault :=
  .sequence "boot" 0 cause

/-- Runs the boot sequence and remembers the control values, or writes the remembered ones back if
the controls are still the same. -/
def runBoot (b : Backend σ) (c : Card) : Op σ Unit := do
  if ← onSurface (b.changed.adaptExcept bootFault) then
    run b c "boot" none c.boot
    onSurface (b.store.adaptExcept bootFault)
  else
    onSurface (b.restore.adaptExcept bootFault)

/-- Leaves the active verb and forgets that the defaults sequence was run. -/
def reset (b : Backend σ) (c : Card) : Op σ Unit := do
  setVerb b c inactiveName
  update fun a => { a with defaultsApplied := false }

end Rig

/-- Whether a named entity of the active verb is active; without an active verb none is. -/
def Activation.isEnabled (a : Activation) (c : Card) (kind : Kind) (name : String) :
    Except Fault Bool :=
  match a.verb with
  | none => .ok false
  | some index =>
    match c.verb? index with
    | none => .error (.notFound .activeVerb)
    | some v =>
      match v.find? kind name with
      | none => .error (.notFound (.entity kind name v.name))
      | some i => .ok (a.isActive kind i)

end UseCase
