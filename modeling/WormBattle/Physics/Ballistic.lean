import WormBattle.Physics.Sampling

/-!
# Ballistic flight

A body that is pushed off follows a parabola. The **trajectory** `positionAt` is defined for every
time; a **flight** proper lasts until the body is back at the height it started from
(`flightTime`), and `step` is held between the two ends of the flight.
-/

namespace WormBattle

open Scalar

/-- The acceleration of a falling body, in metres per square second. -/
def gravity {α : Type} [Scalar α] : α :=
  9.80665

/-- A launched body: where, how fast and in which direction it starts. -/
structure Ballistic (α : Type) where
  /-- The starting point. -/
  origin : Position α
  /-- The starting speed. -/
  velocity : α
  /-- The starting direction. -/
  direction : α
  deriving Repr

namespace Ballistic

variable {α : Type} [Scalar α]

/-- A force acts on a body for half a second. -/
def launch (origin : Position α) (force mass direction : α) : Ballistic α :=
  ⟨origin, force / mass * 0.5, direction⟩

/-- The time after which the body is back at its starting height. -/
def flightTime (b : Ballistic α) : α :=
  2.0 * b.velocity * sin b.direction / gravity

/-- Whether the body gets off the ground: it moves, and it is up in the air for some time. -/
def canFly (b : Ballistic α) : Bool :=
  let time := b.flightTime
  isFinite b.velocity && decide (0.0 < b.velocity) && isFinite time && decide (0.0 < time)

/-- The trajectory, continued beyond both ends of the flight. -/
def positionAt (b : Ballistic α) (time : α) : Position α :=
  ⟨b.origin.x + b.velocity * cos b.direction * time,
    b.origin.y + b.velocity * sin b.direction * time - gravity / 2.0 * time * time⟩

/-- The position after some time of flight; a body that cannot fly stays where it is. -/
def step (b : Ballistic α) (time : α) : Except (Error α) (Position α) := do
  checkTime time
  if !b.canFly then return b.origin
  return b.positionAt (minNum time b.flightTime)

/-- The time after which the trajectory stays below a height; zero if it never reaches it. -/
def timeToSinkBelow (b : Ballistic α) (floor : α) : α :=
  let rise := b.velocity * sin b.direction
  let drop := b.origin.y - floor
  let discriminant := rise * rise + 2.0 * gravity * drop
  if discriminant < 0.0 then 0.0
  else maxNum ((rise + sqrt discriminant) / gravity) 0.0

/-- The position at the end of the flight. -/
def endpoint (b : Ballistic α) : Position α :=
  if b.canFly then b.positionAt b.flightTime else b.origin

end Ballistic

end WormBattle
