import WormBattle.Scalar

/-!
# Spheres

Worms and projectiles are spheres of one material each, so that mass and radius determine each
other.
-/

namespace WormBattle.Sphere

open Scalar

variable {α : Type} [Scalar α]

/-- The mass of a sphere. -/
def mass (density radius : α) : α :=
  density * 4.0 / 3.0 * pi * cube radius

/-- The radius of a sphere. -/
def radius (density mass : α) : α :=
  cbrt (3.0 * mass / (4.0 * pi * density))

end WormBattle.Sphere
