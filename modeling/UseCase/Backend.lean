import UseCase.Fault

/-!
# Control surfaces

A control surface carries out steps: it writes controls, runs commands and waits. It can also
remember all control values and write them back. The surface is a value of some type `σ`; an
operation answers with a result or a fault, and either way with the surface as it is afterwards, so
that what reached the hardware before a fault stays visible.
-/

namespace UseCase

/-- What a control surface is asked to do. -/
inductive Step where
  /-- Writes a control of the named control device, or of the surface's own if none is named. -/
  | set (device : Option String) (control value : String)
  | execute (command : String)
  | sleep (nanoseconds : Nat)
  deriving DecidableEq, Repr

/-- The operations of a control surface. -/
structure Backend (σ : Type) where
  /-- Carries out one step. -/
  apply : Step → EStateM ControlFault σ Unit
  /-- Whether the controls differ from those of the remembered values. -/
  changed : EStateM ControlFault σ Bool
  /-- Remembers the control values. -/
  store : EStateM ControlFault σ Unit
  /-- Writes the remembered values back. -/
  restore : EStateM ControlFault σ Unit

/-- Runs an operation on a part of a larger state. -/
def onPart {ε σ τ α : Type} (get : τ → σ) (set : τ → σ → τ) (x : EStateM ε σ α) : EStateM ε τ α :=
  fun t => match x (get t) with
    | .ok a s => .ok a (set t s)
    | .error e s => .error e (set t s)

/-- The surface that is a part of a larger state. -/
def Backend.onPart {σ τ : Type} (get : τ → σ) (set : τ → σ → τ) (b : Backend σ) : Backend τ where
  apply step := UseCase.onPart get set (b.apply step)
  changed := UseCase.onPart get set b.changed
  store := UseCase.onPart get set b.store
  restore := UseCase.onPart get set b.restore

end UseCase
