import WormBattle.Entity.Basic
import WormBattle.Entity.Team
import WormBattle.Random.Stream
import WormBattle.Terrain.Grid

/-!
# Worlds

A world is the terrain with everything on it: worms in turn order, rations in the order of their
numbers, at most one projectile in flight, and the teams. It also knows whose turn it is.

A `Simulation` is a world in play, together with what its commands need or leave behind beyond the
world itself. A **command** works on a simulation. It may be refused, and what it had done before it
was refused then stays done, so the type of commands keeps the simulation in either case.
-/

namespace WormBattle

/-- Whose turn it is. -/
structure Turn where
  /-- The current worm's place in the turn order. -/
  index : Nat
  /-- The number of the turn, counted from one. -/
  number : Nat
  /-- Whether the current worm has left the world; its place is then its successor's. -/
  currentRemoved : Bool
  deriving Repr, DecidableEq

/-- The stages of a world's life. -/
inductive WorldState where
  /-- Nobody has had a turn yet. -/
  | notStarted
  /-- Somebody has the turn. -/
  | inProgress (turn : Turn)
  /-- The game is over. -/
  | finished
  /-- The world has let go of everything. -/
  | terminated
  deriving Repr, DecidableEq

/-- A world. -/
structure World (α : Type) where
  /-- The world's number. -/
  id : WorldId
  /-- The terrain. -/
  grid : TerrainGrid α
  /-- The settings. -/
  config : GameConfig α
  /-- The worms in turn order. -/
  worms : List (Worm α)
  /-- The rations in the order of their numbers. -/
  food : List (Food α)
  /-- The projectile in flight. -/
  projectile : Option (Projectile α)
  /-- The teams. -/
  teams : List Team
  /-- The random numbers to come. -/
  random : RandomStream α
  /-- The stage of the world's life. -/
  state : WorldState

namespace World

variable {α : Type} [Scalar α]

/-! ### Making worlds -/

/-- An empty world on a terrain. The configuration has to be usable. -/
def onGrid (id : WorldId) (grid : TerrainGrid α) (config : GameConfig α) :
    Except (Error α) (World α) := do
  config.check
  return {
    id
    grid := grid.withContactInflation config.terrain.contactInflation
    config
    worms := []
    food := []
    projectile := none
    teams := []
    random := .ofSeed config.seed
    state := .notStarted }

/-- An empty world on the terrain of a map, given by rows of passable cells from the top. -/
def make (id : WorldId) (width height : α) (map : List (List Bool)) (config : GameConfig α) :
    Except (Error α) (World α) := do
  onGrid id (← TerrainGrid.ofRows width height map) config

/-! ### Looking things up -/

/-- The worm of a number. -/
def worm? (w : World α) (id : EntityId) : Option (Worm α) :=
  w.worms.find? fun worm => worm.id = id

/-- The ration of a number. -/
def food? (w : World α) (id : EntityId) : Option (Food α) :=
  w.food.find? fun food => food.id = id

/-- The team of a name. -/
def team? (w : World α) (name : String) : Option Team :=
  w.teams.find? fun team => team.name = name

/-- The worms of a team, in turn order. -/
def teamMembers (w : World α) (name : String) : List EntityId :=
  (w.worms.filter fun worm => worm.team == some name).map Worm.id

/-- Whether an entity of a number is in the world. -/
def contains (w : World α) (id : EntityId) : Bool :=
  (w.worm? id).isSome || (w.food? id).isSome || w.projectile.any fun p => p.id = id

/-- Whether the world has been terminated. -/
def isTerminated (w : World α) : Bool :=
  w.state == .terminated

/-- Whether somebody has the turn. -/
def isInProgress (w : World α) : Bool :=
  match w.state with
  | .inProgress _ => true
  | _ => false

/-- The worm that has the turn. -/
def currentWorm? (w : World α) : Option (Worm α) :=
  match w.state with
  | .inProgress turn => if turn.currentRemoved then none else w.worms[turn.index]?
  | _ => none

/-- The number of the present turn. -/
def turnNumber? (w : World α) : Option Nat :=
  match w.state with
  | .inProgress turn => some turn.number
  | _ => none

/-- A worm that has to be in the world. -/
def requireWorm (w : World α) (id : EntityId) : Except (Error α) (Worm α) :=
  match w.worm? id with
  | some worm => .ok worm
  | none => .error (.notAWorm id)

/-! ### Replacing worms -/

/-- The worms with one of them replaced by a worm of the same number. -/
def replaceWorm (worm : Worm α) : List (Worm α) → List (Worm α)
  | [] => []
  | w :: rest => if w.id = worm.id then worm :: rest else w :: replaceWorm worm rest

/-- The world with one of its worms replaced by a worm of the same number. -/
def setWorm (w : World α) (worm : Worm α) : World α :=
  { w with worms := replaceWorm worm w.worms }

end World

/-- A world in play. -/
structure Simulation (α : Type) where
  /-- The world. -/
  world : World α
  /-- The numbers for new entities. -/
  ids : IdSupply
  /-- What onlookers were told of observed programs, the latest first. -/
  told : List (Effect α) := []

/-- What onlookers were told, in order. -/
def Simulation.effects {α : Type} (s : Simulation α) : List (Effect α) :=
  s.told.reverse

/-- A command works on a simulation; when it is refused, what it had done stays done. -/
abbrev Command (α β : Type) : Type :=
  ExceptT (Error α) (StateM (Simulation α)) β

namespace Command

variable {α β : Type} [Scalar α]

/-- Carry out a command. -/
def carryOut (command : Command α β) (s : Simulation α) : Except (Error α) β × Simulation α :=
  command.run.run s

/-- The present world. -/
def world : Command α (World α) :=
  return (← get).world

/-- Change the world. -/
def modifyWorld (f : World α → World α) : Command α Unit :=
  modify fun s => { s with world := f s.world }

/-- A worm that has to be in the world. -/
def requireWorm (id : EntityId) : Command α (Worm α) := do
  (← world).requireWorm id

/-- Replace a worm of the world by a worm of the same number. -/
def setWorm (worm : Worm α) : Command α Unit :=
  modifyWorld fun w => w.setWorm worm

/-- Make an entity under the next free number. -/
def mint (make : EntityId → Except (Error α) β) : Command α β := do
  let (result, ids) := (← get).ids.mint make
  modify fun s => { s with ids }
  result

end Command

end WormBattle
