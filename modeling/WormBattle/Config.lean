import WormBattle.Physics.Sampling

/-!
# Configuration

The numbers that a battle is played with, in sections. Every setting has a default. A configuration
is usable (`GameConfig.check`) when the searches that it steers make headway.
-/

namespace WormBattle

open Scalar

/-- How worms are built and what their actions cost. -/
structure WormConfig (α : Type) where
  /-- The density of a worm. -/
  density : α
  /-- The least radius of a worm. -/
  minRadius : α
  /-- The radius of a worm that is put at a random spot. -/
  spawnRadius : α
  /-- The action points of a turn by the full circle. -/
  turnCostFullCircle : α
  /-- The force that an action point adds to a jump. -/
  jumpForcePerActionPoint : α
  /-- The hit points that a worm gets back when its turn starts. -/
  hitPointRegen : UInt32
  /-- The hit points that a metre of falling costs. -/
  fallDamagePerMetre : α
  /-- The factor by which a ration makes the radius grow. -/
  growthFactor : α
  /-- The largest angle between a worm's direction and its move. -/
  maxMoveDivergence : α
  /-- The angle between two directions that a move may take. -/
  moveDivergenceStep : α
  /-- The least length of a move, as a part of the radius. -/
  minMoveFraction : α
  /-- The distance between two spots that a search looks at, as a part of the radius. -/
  searchStepFraction : α
  deriving Repr

/-- How rations are built. -/
structure FoodConfig (α : Type) where
  /-- The radius of a ration. -/
  radius : α
  deriving Repr

/-- What a weapon shoots. -/
structure WeaponSpec (α : Type) where
  /-- The mass of a projectile. -/
  projectileMass : α
  /-- The force at yield zero. -/
  minForce : α
  /-- The force at full yield. -/
  maxForce : α
  /-- The action points of a shot. -/
  cost : Nat
  /-- The hit points that a struck worm loses. -/
  damage : Nat
  deriving Repr

/-- The weapons. -/
structure WeaponConfig (α : Type) where
  /-- The density of every projectile. -/
  projectileDensity : α
  /-- The rifle. -/
  rifle : WeaponSpec α
  /-- The bazooka. -/
  bazooka : WeaponSpec α
  deriving Repr

/-- How discs meet terrain. -/
structure TerrainConfig (α : Type) where
  /-- The factor by which a disc is inflated to find out whether it touches terrain. -/
  contactInflation : α
  deriving Repr

/-- How programs run. -/
structure ProgramConfig where
  /-- The largest number of statements of one run. -/
  maxStatementsPerRun : Nat
  deriving Repr, DecidableEq

/-- How worlds are filled. -/
structure SpawnConfig where
  /-- The number of random starting points that are tried for one entity. -/
  attempts : Nat
  /-- The largest number of teams. -/
  maxTeams : Nat
  deriving Repr, DecidableEq

/-- All settings of a battle. -/
structure GameConfig (α : Type) where
  /-- What the random numbers of the world are made from. -/
  seed : Nat
  /-- The time between two samples of a flight. -/
  timeStep : α
  /-- How worms are built and what their actions cost. -/
  worm : WormConfig α
  /-- How rations are built. -/
  food : FoodConfig α
  /-- The weapons. -/
  weapons : WeaponConfig α
  /-- How discs meet terrain. -/
  terrain : TerrainConfig α
  /-- How programs run. -/
  program : ProgramConfig
  /-- How worlds are filled. -/
  spawn : SpawnConfig
  deriving Repr

variable {α : Type} [Scalar α]

/-! ### Defaults -/

instance : Inhabited (WormConfig α) where
  default :=
    { density := 1062.0
      minRadius := 0.25
      spawnRadius := 0.5
      turnCostFullCircle := 60.0
      jumpForcePerActionPoint := 5.0
      hitPointRegen := 10
      fallDamagePerMetre := 3.0
      growthFactor := 1.1
      maxMoveDivergence := 0.7875
      moveDivergenceStep := 0.0175
      minMoveFraction := 0.1
      searchStepFraction := 0.01 }

instance : Inhabited (FoodConfig α) where
  default := { radius := 0.2 }

instance : Inhabited (WeaponConfig α) where
  default :=
    { projectileDensity := 7800.0
      rifle :=
        { projectileMass := 0.01, minForce := 1.5, maxForce := 1.5, cost := 10, damage := 20 }
      bazooka :=
        { projectileMass := 0.3, minForce := 2.5, maxForce := 9.5, cost := 50, damage := 80 } }

instance : Inhabited (TerrainConfig α) where
  default := { contactInflation := 1.1 }

instance : Inhabited ProgramConfig where
  default := { maxStatementsPerRun := 1000 }

instance : Inhabited SpawnConfig where
  default := { attempts := 100, maxTeams := 10 }

instance : Inhabited (GameConfig α) where
  default :=
    { seed := 0
      timeStep := 0.001
      worm := default
      food := default
      weapons := default
      terrain := default
      program := default
      spawn := default }

/-! ### Rules -/

/-- The force of a shot grows with its yield from the least to the greatest. -/
def WeaponSpec.force (spec : WeaponSpec α) (yieldPercent : Nat) : α :=
  spec.minForce + (spec.maxForce - spec.minForce) * (yieldPercent : α) / 100.0

/-- A setting that has to be positive and finite. -/
def checkPositive (setting : String) (value : α) : Except (Error α) Unit :=
  if !isFinite value || value ≤ 0.0 then .error (.settingNotPositive setting value) else .ok ()

/-- The usable configurations: steps and radii are positive, and the inflated disc contains the
disc. -/
def GameConfig.check (config : GameConfig α) : Except (Error α) Unit := do
  checkTimeStep config.timeStep
  checkPositive "worm.search_step_fraction" config.worm.searchStepFraction
  checkPositive "worm.move_divergence_step" config.worm.moveDivergenceStep
  checkPositive "worm.min_radius" config.worm.minRadius
  let inflation := config.terrain.contactInflation
  if !(1.0 ≤ inflation) || !isFinite inflation then throw (.illegalInflation inflation)

end WormBattle
