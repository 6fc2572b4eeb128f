import UseCase.Fault

/-!
# Constraints between devices

An entity may name devices one of which has to be active, or devices none of which may be. `ofLists`
builds the constraint from the two lists of a description and `check` decides whether an entity may
join the active devices.
-/

namespace UseCase

namespace Constraint

/-- The constraint of an entity that lists these devices; it may not list both sorts. -/
def ofLists (owner : String) (supported conflicting : List String) : Except Fault Constraint :=
  match supported, conflicting with
  | [], [] => .ok .any
  | _ :: _, [] => .ok (.supported supported)
  | [], _ :: _ => .ok (.conflicting conflicting)
  | _ :: _, _ :: _ => .error (.configuration (.bothConstraints owner))

/-- The clash of a constraint with the active devices, if there is one. -/
def clash? (c : Constraint) (active : List String) : Option Clash :=
  match c with
  | any => none
  | supported devices =>
    if active.any devices.contains then none else some (.noneActive devices)
  | conflicting devices => (active.find? devices.contains).map .active

end Constraint

/-- Whether the entity may become active beside the given devices. -/
def Entity.checkBeside (e : Entity) (active : List String) : Except Fault Unit :=
  match e.constraint.clash? active with
  | none => .ok ()
  | some clash => .error (.conflict e.name clash)

end UseCase
