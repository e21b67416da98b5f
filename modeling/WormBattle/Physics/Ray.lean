import WormBattle.Position

/-!
# Rays

When does a ray enter a disc? The ray leaves its origin in a direction given by a unit vector. A ray
that only touches the rim does not enter.
-/

namespace WormBattle.Ray

open Scalar

variable {α : Type} [Scalar α]

/-- The distance from the origin to the first point of the ray inside the disc, if there is one:
zero for an origin inside the disc. With `along` the distance to the foot of the disc's centre on
the line of the ray, the line crosses the disc half a chord before and after the foot. -/
def hitAlong? (origin : Position α) (dx dy : α) (centre : Position α) (radius : α) : Option α :=
  let wx := centre.x - origin.x
  let wy := centre.y - origin.y
  let along := wx * dx + wy * dy
  let offsetSquared := (wx * wx + wy * wy) - along * along
  let radiusSquared := radius * radius
  if radiusSquared ≤ offsetSquared then none
  else
    let halfChord := sqrt (radiusSquared - offsetSquared)
    if along + halfChord < 0.0 then none
    else some (maxNum (along - halfChord) 0.0)

/-- The distance at which the ray that leaves the origin at an angle enters the disc. -/
def hit? (origin : Position α) (angle : α) (centre : Position α) (radius : α) : Option α :=
  hitAlong? origin (cos angle) (sin angle) centre radius

end WormBattle.Ray
