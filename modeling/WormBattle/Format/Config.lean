import WormBattle.Config
import WormBattle.Json.Tree

/-!
# The JSON form of configurations

Every section is an object of its settings. A setting that is left out has its default; only a
weapon has to be given in full. Counts have 32 bits, apart from the seed and the number of teams,
which have 64.
-/

namespace WormBattle

open Json (nat double object)

namespace WormConfig

/-- The form of the section on worms. -/
def toJson (config : WormConfig Float) : Json :=
  object [
    ("density", double config.density),
    ("min_radius", double config.minRadius),
    ("spawn_radius", double config.spawnRadius),
    ("turn_cost_full_circle", double config.turnCostFullCircle),
    ("jump_force_per_action_point", double config.jumpForcePerActionPoint),
    ("hit_point_regen", nat config.hitPointRegen.toNat),
    ("fall_damage_per_metre", double config.fallDamagePerMetre),
    ("growth_factor", double config.growthFactor),
    ("max_move_divergence", double config.maxMoveDivergence),
    ("move_divergence_step", double config.moveDivergenceStep),
    ("min_move_fraction", double config.minMoveFraction),
    ("search_step_fraction", double config.searchStepFraction)]

/-- The section on worms of a form. -/
def ofJson? (j : Json) : Option (WormConfig Float) := do
  let fields ← j.record? ["density", "min_radius", "spawn_radius", "turn_cost_full_circle",
    "jump_force_per_action_point", "hit_point_regen", "fall_damage_per_metre", "growth_factor",
    "max_move_divergence", "move_divergence_step", "min_move_fraction", "search_step_fraction"]
  let number (name : String) (value : Float) : Option Float :=
    fields.default name Json.double? value
  let base : WormConfig Float := default
  return {
    density := ← number "density" base.density
    minRadius := ← number "min_radius" base.minRadius
    spawnRadius := ← number "spawn_radius" base.spawnRadius
    turnCostFullCircle := ← number "turn_cost_full_circle" base.turnCostFullCircle
    jumpForcePerActionPoint :=
      ← number "jump_force_per_action_point" base.jumpForcePerActionPoint
    hitPointRegen := ← fields.default "hit_point_regen" Json.word? base.hitPointRegen
    fallDamagePerMetre := ← number "fall_damage_per_metre" base.fallDamagePerMetre
    growthFactor := ← number "growth_factor" base.growthFactor
    maxMoveDivergence := ← number "max_move_divergence" base.maxMoveDivergence
    moveDivergenceStep := ← number "move_divergence_step" base.moveDivergenceStep
    minMoveFraction := ← number "min_move_fraction" base.minMoveFraction
    searchStepFraction := ← number "search_step_fraction" base.searchStepFraction }

end WormConfig

namespace FoodConfig

/-- The form of the section on rations. -/
def toJson (config : FoodConfig Float) : Json :=
  object [("radius", double config.radius)]

/-- The section on rations of a form. -/
def ofJson? (j : Json) : Option (FoodConfig Float) := do
  let fields ← j.record? ["radius"]
  let base : FoodConfig Float := default
  return { radius := ← fields.default "radius" Json.double? base.radius }

end FoodConfig

namespace WeaponSpec

/-- The form of a weapon. -/
def toJson (spec : WeaponSpec Float) : Json :=
  object [
    ("projectile_mass", double spec.projectileMass),
    ("min_force", double spec.minForce),
    ("max_force", double spec.maxForce),
    ("cost", nat spec.cost),
    ("damage", nat spec.damage)]

/-- The weapon of a form, in which nothing may be left out. -/
def ofJson? (j : Json) : Option (WeaponSpec Float) := do
  let fields ← j.record? ["projectile_mass", "min_force", "max_force", "cost", "damage"]
  return {
    projectileMass := ← fields.required "projectile_mass" Json.double?
    minForce := ← fields.required "min_force" Json.double?
    maxForce := ← fields.required "max_force" Json.double?
    cost := ← fields.required "cost" (Json.unsigned? 32)
    damage := ← fields.required "damage" (Json.unsigned? 32) }

end WeaponSpec

namespace WeaponConfig

/-- The form of the section on weapons. -/
def toJson (config : WeaponConfig Float) : Json :=
  object [
    ("projectile_density", double config.projectileDensity),
    ("rifle", config.rifle.toJson),
    ("bazooka", config.bazooka.toJson)]

/-- The section on weapons of a form. -/
def ofJson? (j : Json) : Option (WeaponConfig Float) := do
  let fields ← j.record? ["projectile_density", "rifle", "bazooka"]
  let base : WeaponConfig Float := default
  return {
    projectileDensity :=
      ← fields.default "projectile_density" Json.double? base.projectileDensity
    rifle := ← fields.default "rifle" WeaponSpec.ofJson? base.rifle
    bazooka := ← fields.default "bazooka" WeaponSpec.ofJson? base.bazooka }

end WeaponConfig

namespace TerrainConfig

/-- The form of the section on terrain. -/
def toJson (config : TerrainConfig Float) : Json :=
  object [("contact_inflation", double config.contactInflation)]

/-- The section on terrain of a form. -/
def ofJson? (j : Json) : Option (TerrainConfig Float) := do
  let fields ← j.record? ["contact_inflation"]
  let base : TerrainConfig Float := default
  return {
    contactInflation := ← fields.default "contact_inflation" Json.double? base.contactInflation }

end TerrainConfig

namespace ProgramConfig

/-- The form of the section on programs. -/
def toJson (config : ProgramConfig) : Json :=
  object [("max_statements_per_run", nat config.maxStatementsPerRun)]

/-- The section on programs of a form. -/
def ofJson? (j : Json) : Option ProgramConfig := do
  let fields ← j.record? ["max_statements_per_run"]
  let base : ProgramConfig := default
  return {
    maxStatementsPerRun :=
      ← fields.default "max_statements_per_run" (Json.unsigned? 32) base.maxStatementsPerRun }

end ProgramConfig

namespace SpawnConfig

/-- The form of the section on filling worlds. -/
def toJson (config : SpawnConfig) : Json :=
  object [("attempts", nat config.attempts), ("max_teams", nat config.maxTeams)]

/-- The section on filling worlds of a form. -/
def ofJson? (j : Json) : Option SpawnConfig := do
  let fields ← j.record? ["attempts", "max_teams"]
  let base : SpawnConfig := default
  return {
    attempts := ← fields.default "attempts" (Json.unsigned? 32) base.attempts
    maxTeams := ← fields.default "max_teams" (Json.unsigned? 64) base.maxTeams }

end SpawnConfig

namespace GameConfig

/-- The form of a configuration. -/
def toJson (config : GameConfig Float) : Json :=
  object [
    ("seed", nat config.seed),
    ("time_step", double config.timeStep),
    ("worm", config.worm.toJson),
    ("food", config.food.toJson),
    ("weapons", config.weapons.toJson),
    ("terrain", config.terrain.toJson),
    ("program", config.program.toJson),
    ("spawn", config.spawn.toJson)]

/-- The configuration of a form. -/
def ofJson? (j : Json) : Option (GameConfig Float) := do
  let fields ← j.record?
    ["seed", "time_step", "worm", "food", "weapons", "terrain", "program", "spawn"]
  let base : GameConfig Float := default
  return {
    seed := ← fields.default "seed" (Json.unsigned? 64) base.seed
    timeStep := ← fields.default "time_step" Json.double? base.timeStep
    worm := ← fields.default "worm" WormConfig.ofJson? base.worm
    food := ← fields.default "food" FoodConfig.ofJson? base.food
    weapons := ← fields.default "weapons" WeaponConfig.ofJson? base.weapons
    terrain := ← fields.default "terrain" TerrainConfig.ofJson? base.terrain
    program := ← fields.default "program" ProgramConfig.ofJson? base.program
    spawn := ← fields.default "spawn" SpawnConfig.ofJson? base.spawn }

end GameConfig

end WormBattle
