import WormBattle.Scalar

/-!
# Angles

Angles are scalars in radians, counterclockwise from the positive x axis. A **direction** is an
angle of the half-open full circle `[0, 2π)`; a **turn** is an angle of the half-open circle
`(-π, π]`, so that it goes the short way round.
-/

namespace WormBattle.Angle

open Scalar

variable {α : Type} [Scalar α]

/-- The angles that count as directions: from zero up to, and without, the full circle. -/
def isDirection (angle : α) : Bool :=
  decide (0.0 ≤ angle) && decide (angle < tau)

/-- The remainder on division by the full circle that is not negative, when the arithmetic is
exact. Rounding may lift it to the full circle itself. -/
def wrap (angle : α) : α :=
  let remainder := rem angle tau
  if remainder < 0.0 then remainder + Scalar.abs tau else remainder

/-- The direction that an angle points in. An angle just below zero wraps to the full circle when
the sum is rounded, and that is direction zero. -/
def toDirection (angle : α) : α :=
  let wrapped := wrap angle
  if tau ≤ wrapped then 0.0 else wrapped

/-- The turn that an angle amounts to, taken the short way round. -/
def toTurn (angle : α) : α :=
  let direction := toDirection angle
  if pi < direction then direction - tau else direction

end WormBattle.Angle
