import WormBattle.Angle
import WormBattle.Entity.Food
import WormBattle.Entity.Launch

/-!
# Weapons and projectiles

A weapon is fired with a **yield** between 0 and 100 per cent. The projectile knows what fired it,
and keeps the force and density that the weapons had when it was fired.
-/

namespace WormBattle

/-- The kinds of weapons. -/
inductive WeaponKind where
  | rifle | bazooka
  deriving Repr, DecidableEq

namespace WeaponKind

/-- The weapon that is selected after this one. -/
def next : WeaponKind → WeaponKind
  | rifle => bazooka
  | bazooka => rifle

/-- The written name of a weapon. -/
def name : WeaponKind → String
  | rifle => "rifle"
  | bazooka => "bazooka"

/-- The weapon of a written name. -/
def ofName? : String → Option WeaponKind
  | "rifle" => some rifle
  | "bazooka" => some bazooka
  | _ => none

/-- What the weapon shoots. -/
def spec {α : Type} (weapon : WeaponKind) (config : WeaponConfig α) : WeaponSpec α :=
  match weapon with
  | rifle => config.rifle
  | bazooka => config.bazooka

end WeaponKind

/-- The greatest yield. -/
def maxYield : Nat :=
  100

/-- Yields go up to the greatest. -/
def checkYield {α : Type} (yieldPercent : Nat) : Except (Error α) Unit :=
  if maxYield < yieldPercent then .error (.illegalYield yieldPercent maxYield) else .ok ()

/-- A shot. -/
structure Projectile (α : Type) where
  /-- The projectile's body. -/
  body : Body α
  /-- The direction of the shot. -/
  direction : α
  /-- The projectile's density. -/
  density : α
  /-- The weapon that fired it. -/
  weapon : WeaponKind
  /-- The yield of the shot. -/
  yieldPercent : Nat
  /-- The force of the shot. -/
  force : α
  /-- The worm that fired it. -/
  owner : Option EntityId
  deriving Repr

namespace Projectile

variable {α : Type} [Scalar α]

/-- A detached projectile. -/
def make (position : Position α) (direction : α) (weapon : WeaponKind) (yieldPercent : Nat)
    (config : WeaponConfig α) (owner : Option EntityId) (id : EntityId) :
    Except (Error α) (Projectile α) := do
  checkYield yieldPercent
  if !Angle.isDirection direction then throw (.illegalDirection direction)
  let spec := weapon.spec config
  let radius := Sphere.radius config.projectileDensity spec.projectileMass
  return {
    body := ← Body.make position radius leastRadius id
    direction
    density := config.projectileDensity
    weapon
    yieldPercent
    force := spec.force yieldPercent
    owner }

/-- The projectile's number. -/
def id (p : Projectile α) : EntityId :=
  p.body.id

/-- The projectile as a sphere to be launched. -/
def launch (p : Projectile α) : Launch α :=
  { position := p.body.position
    radius := p.body.radius
    density := p.density
    force := p.force
    direction := p.direction }

end Projectile

end WormBattle
