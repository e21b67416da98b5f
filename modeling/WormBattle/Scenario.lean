import WormBattle.World.Program
import WormBattle.World.Spawn

/-!
# Scenarios

A scenario describes a battle before its first turn: the terrain as a drawn map, the settings, the
teams, the worms with their programs, and the rations. `Scenario.build` sets up its world.

A program stands in the scenario itself or in a file. What a file holds is found out by a function
that the caller supplies, so that building a world is a matter of values only. The caller also says
in which runtime the programs are to run.
-/

namespace WormBattle

/-- Where a worm's program comes from. -/
inductive ProgramSource (α : Type) where
  /-- A file of its own, by the path that the scenario writes. -/
  | file (path : String)
  /-- The scenario itself. -/
  | inline (program : Program α)

/-- A worm of a scenario. -/
structure WormSpec (α : Type) where
  /-- The worm's name. -/
  name : String
  /-- How far the worm stands from the left edge. -/
  x : α
  /-- How far the worm stands from the bottom edge. -/
  y : α
  /-- The direction that the worm faces. -/
  direction : α
  /-- The worm's radius. -/
  radius : α
  /-- The worm's team. -/
  team : Option String
  /-- The program that the worm runs. -/
  program : Option (ProgramSource α)

/-- A ration of a scenario. -/
structure FoodSpec (α : Type) where
  /-- How far the ration lies from the left edge. -/
  x : α
  /-- How far the ration lies from the bottom edge. -/
  y : α
  deriving Repr

/-- A battle before its first turn. -/
structure Scenario (α : Type) where
  /-- The width of the world. -/
  width : α
  /-- The height of the world. -/
  height : α
  /-- The lines of the drawn map from the top. -/
  map : List String
  /-- The settings. -/
  config : GameConfig α
  /-- The names of the teams. -/
  teams : List String
  /-- The worms in turn order. -/
  worms : List (WormSpec α)
  /-- The rations at given places. -/
  food : List (FoodSpec α)
  /-- The number of rations at random places. -/
  randomFood : Nat
  /-- The number of turns after which the battle is broken off. -/
  maxTurns : Nat

/-- How the program in a file is found out. -/
abbrev ProgramLoader (α : Type) : Type :=
  String → Except (Error α) (Program α)

/-- The program of a source. -/
def ProgramSource.load {α : Type} (loader : ProgramLoader α) :
    ProgramSource α → Except (Error α) (Program α)
  | file path => loader path
  | inline program => .ok program

/-- The path of the file that a source names. -/
def ProgramSource.path? {α : Type} : ProgramSource α → Option String
  | file path => some path
  | inline _ => none

namespace Scenario

variable {α : Type}

/-- The paths of the files that hold programs of the scenario. -/
def programPaths (s : Scenario α) : List String :=
  s.worms.filterMap fun spec => spec.program.bind ProgramSource.path?

variable [Scalar α]

/-- The terrain of the scenario. Without a map everything is passable. -/
def grid (s : Scenario α) : Except (Error α) (TerrainGrid α) :=
  if s.map.isEmpty then .ok (.empty s.width s.height)
  else TerrainGrid.ofLines s.width s.height s.map

/-- Add a team of some name. -/
def addTeam (name : String) : Command α Unit := do
  Command.addTeam (← Team.make (α := α) name)

/-- Add a worm with its program, and let it join its team. -/
def addWorm (config : GameConfig α) (runtime : Runtime) (loader : ProgramLoader α)
    (spec : WormSpec α) : Command α Unit := do
  let worm ← Command.mint
    (Worm.make spec.name ⟨spec.x, spec.y⟩ spec.direction spec.radius config.worm)
  let program ← spec.program.mapM fun source =>
    return ProgramInstance.ofRuntime runtime (← source.load loader)
  let worm := match program with
    | some program => worm.attachProgram program
    | none => worm
  let id ← Command.addWorm worm
  if let some team := spec.team then Command.joinTeam id team

/-- Add a ration at its place. -/
def addFood (config : GameConfig α) (spec : FoodSpec α) : Command α Unit := do
  let _ ← Command.addFood (← Command.mint (Food.make ⟨spec.x, spec.y⟩ config.food))

/-- Add so many rations at random places. -/
def addRandomFood : Nat → Command α Unit
  | 0 => return ()
  | count + 1 => do
    let _ ← Command.addNewFood
    addRandomFood count

/-- Bring the teams, the worms and the rations into the world, in this order. -/
def populate (s : Scenario α) (runtime : Runtime) (loader : ProgramLoader α) :
    Command α Unit := do
  s.teams.forM addTeam
  s.worms.forM (addWorm s.config runtime loader)
  s.food.forM (addFood s.config)
  addRandomFood s.randomFood

/-- The world of a scenario, ready to be played. -/
def build (s : Scenario α) (id : WorldId) (ids : IdSupply) (runtime : Runtime)
    (loader : ProgramLoader α) : Except (Error α) (Simulation α) := do
  let world ← World.onGrid id (← s.grid) s.config
  match (s.populate runtime loader).carryOut { world, ids } with
  | (.ok (), simulation) => return simulation
  | (.error e, _) => throw e

end Scenario

end WormBattle
