import WormBattle.Scalar

/-!
# Positions

Points of the plane in metres, with y growing upwards.
-/

namespace WormBattle

open Scalar

/-- A point of the plane. -/
structure Position (α : Type) where
  /-- The distance to the right of the world's left edge. -/
  x : α
  /-- The height above the world's bottom edge. -/
  y : α
  deriving Repr, DecidableEq, BEq

namespace Position

variable {α : Type} [Scalar α]

/-- A position is legal when both of its coordinates are finite. -/
def isFinite (p : Position α) : Bool :=
  Scalar.isFinite p.x && Scalar.isFinite p.y

/-- The position moved by a vector. -/
def offset (p : Position α) (dx dy : α) : Position α :=
  ⟨p.x + dx, p.y + dy⟩

/-- The position reached by going a distance at an angle. -/
def towards (p : Position α) (angle distance : α) : Position α :=
  p.offset (distance * cos angle) (distance * sin angle)

/-- The square of the distance between two positions. -/
def squaredDistance (p q : Position α) : α :=
  sq (p.x - q.x) + sq (p.y - q.y)

/-- The distance between two positions. -/
def distance (p q : Position α) : α :=
  sqrt (p.squaredDistance q)

/-- The angle at which one position sees another. -/
def bearingTo (p q : Position α) : α :=
  atan2 (q.y - p.y) (q.x - p.x)

end Position

end WormBattle
