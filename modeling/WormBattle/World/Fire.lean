import WormBattle.World.Jump

/-!
# Firing

A worm fires from its rim. The projectile is then in flight until it is **resolved**: its
trajectory is followed sample by sample until it leaves the world, strikes a worm other than the one
that fired it, or hits terrain. Firing and resolving in one step follows the flight before the shot
is paid for.
-/

namespace WormBattle

open Scalar

variable {α : Type} [Scalar α]

/-- Where a flight ended. -/
inductive Impact (α : Type) where
  /-- On a worm. -/
  | worm (target : EntityId) (position : Position α) (killed : Bool)
  /-- On terrain. -/
  | terrain (position : Position α)
  /-- Outside the world. -/
  | outOfWorld (position : Position α)
  deriving Repr

namespace World

/-- The first worm in turn order, other than the one that fired it, that a projectile overlaps. -/
def struck? (w : World α) (owner : Option EntityId) (sample : Position α) (radius : α) :
    Option (Worm α) :=
  w.worms.find? fun worm => some worm.id ≠ owner && worm.body.overlaps sample radius

/-- Follow a flight sample by sample. The samples that are left bound the search; `k` is the number
of the next one, and the last argument is the sample before it. -/
def flyFrom (w : World α) (projectile : Projectile α) (ballistic : Ballistic α) (timeStep : α) :
    Nat → Nat → Position α → Except (Error α) (Impact α × α)
  | 0, _, _ => .error .flightNeverEnded
  | left + 1, k, before => do
    let radius := projectile.body.radius
    let time := (k : α) * timeStep
    let sample := ballistic.positionAt time
    if !w.grid.isInside sample radius then return (.outOfWorld sample, time)
    if let some worm := w.struck? projectile.owner sample radius then
      return (.worm worm.id sample false, time)
    match ← w.grid.classify sample radius with
    | .impassable => return (.terrain before, time - timeStep)
    | .contact =>
      -- A shot may graze the ground from which it was fired.
      if radius ≤ sample.distance ballistic.origin then return (.terrain sample, time)
      flyFrom w projectile ballistic timeStep left (k + 1) sample
    | .passable => flyFrom w projectile ballistic timeStep left (k + 1) sample

/-- Where and when the flight of a projectile ends. -/
def flight (w : World α) (projectile : Projectile α) (timeStep : α) :
    Except (Error α) (Impact α × α) := do
  checkTimeStep timeStep
  let ballistic := projectile.launch.ballistic
  let samples ← sampleCount (ballistic.timeToSinkBelow 0.0) timeStep
  w.flyFrom projectile ballistic timeStep samples 1 ballistic.origin

/-- The projectile in flight, which has to be there. -/
def requireProjectile (w : World α) : Except (Error α) (Projectile α) :=
  match w.projectile with
  | some projectile => .ok projectile
  | none => .error .noProjectileInFlight

/-- How long the projectile in flight has to fly. -/
def projectileTime (w : World α) (timeStep : α) : Except (Error α) α := do
  return (← w.flight (← w.requireProjectile) timeStep).2

/-- The cost of a shot with the selected weapon, if the worm may fire from where it stands. -/
def fireCost (w : World α) (id : EntityId) (yieldPercent : Nat) : Except (Error α) Nat := do
  checkYield yieldPercent
  let worm ← w.requireWorm id
  if (← w.grid.classify worm.position worm.radius) = .impassable then
    throw (.firesInsideTerrain id)
  return (worm.weapon.spec w.config.weapons).cost

end World

namespace Command

/-- The shot that a worm would fire and its cost. Only a number for the projectile is used up. -/
def aim (id : EntityId) (yieldPercent : Nat) : Command α (Projectile α × Nat) := do
  let w ← world
  let cost ← w.fireCost id yieldPercent
  let worm ← requireWorm id
  if worm.actionPoints < cost then
    throw (.shortOfPointsToFire worm.name cost worm.actionPoints)
  let muzzle := worm.position.towards worm.direction worm.radius
  let projectile ←
    mint (Projectile.make muzzle worm.direction worm.weapon yieldPercent w.config.weapons (some id))
  return (projectile, cost)

/-- Put a shot into flight and let its worm pay for it. -/
def launch (id : EntityId) (projectile : Projectile α) (cost : Nat) : Command α EntityId := do
  let projectile ← setProjectile projectile
  setWorm (← (← requireWorm id).spend cost)
  return projectile

/-- Fire the selected weapon. The projectile stays in flight. -/
def fire (id : EntityId) (yieldPercent : Nat) : Command α EntityId := do
  let (projectile, cost) ← aim id yieldPercent
  launch id projectile cost

/-- Bring a flight to its end: the struck worm loses hit points, and the projectile is gone. -/
def land (impact : Impact α) (weapon : WeaponKind) : Command α (Impact α) := do
  let damage := (weapon.spec (← world).config.weapons).damage
  let impact ←
    match impact with
    | .worm target position _ => do
      let worm := (← requireWorm target).damage damage
      setWorm worm
      if !worm.isAlive then killWorm target
      pure (.worm target position !worm.isAlive)
    | other => pure other
  let _ ← removeProjectile
  return impact

/-- Fly the projectile in flight to its end. -/
def resolve (timeStep : α) : Command α (Impact α) := do
  let w ← world
  let projectile ← w.requireProjectile
  let (impact, _) ← w.flight projectile timeStep
  land impact projectile.weapon

/-- Fire and fly the shot to its end. A shot that cannot be flown is not fired. -/
def fireAndResolve (id : EntityId) (yieldPercent : Nat) (timeStep : α) :
    Command α (Impact α) := do
  let (projectile, cost) ← aim id yieldPercent
  -- The flight is followed in the world before the launch, in which the sky may not be empty.
  let (impact, _) ← (← world).flight projectile timeStep
  let _ ← launch id projectile cost
  land impact projectile.weapon

end Command

end WormBattle
