import WormBattle.Physics.Ballistic
import WormBattle.Physics.Sphere

/-!
# Launches

Worms that jump and projectiles that are fired are spheres pushed off by a force.
-/

namespace WormBattle

/-- A sphere about to be pushed off. -/
structure Launch (α : Type) where
  /-- Where the sphere is. -/
  position : Position α
  /-- The sphere's radius. -/
  radius : α
  /-- The sphere's density. -/
  density : α
  /-- The force that pushes it. -/
  force : α
  /-- The direction of the push. -/
  direction : α
  deriving Repr

namespace Launch

variable {α : Type} [Scalar α]

/-- The mass of the sphere. -/
def mass (l : Launch α) : α :=
  Sphere.mass l.density l.radius

/-- The flight of the sphere. -/
def ballistic (l : Launch α) : Ballistic α :=
  .launch l.position l.force l.mass l.direction

/-- The position after some time of flight. -/
def step (l : Launch α) (time : α) : Except (Error α) (Position α) :=
  l.ballistic.step time

end Launch

end WormBattle
