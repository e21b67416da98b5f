import WormBattle.World.Fire
import WormBattle.World.Turn

/-!
# Programs in a world

What the programs of worms see of a world, what their actions cost and do there, and how a worm's
program is run: it is taken from the worm, and given back if the worm survives.
-/

namespace WormBattle

variable {α : Type} [Scalar α]

namespace World

/-- What a worm or a ration is; a projectile is nothing that programs know. -/
def kindOf (w : World α) (id : EntityId) : Option EntityKind :=
  if (w.worm? id).isSome then some .worm
  else if (w.food? id).isSome then some .food
  else none

/-- The body of a worm or a ration. -/
def bodyOf (w : World α) (id : EntityId) : Option (Body α) :=
  match w.worm? id with
  | some worm => some worm.body
  | none => (w.food? id).map Food.body

/-- A property of a worm. -/
def wormProperty (worm : Worm α) : Property → α
  | .x => worm.position.x
  | .y => worm.position.y
  | .radius => worm.radius
  | .direction => worm.direction
  | .actionPoints => (worm.actionPoints : α)
  | .maxActionPoints => (worm.maxActionPoints : α)
  | .hitPoints => (worm.hitPoints : α)
  | .maxHitPoints => (worm.maxHitPoints : α)

/-- A property of a worm or a ration. -/
def inspect (w : World α) (id : EntityId) (property : Property) : Except (Error α) α :=
  match w.worm? id, w.food? id with
  | some worm, _ => .ok (wormProperty worm property)
  | none, none => .error (.notInThisWorld id)
  | none, some food =>
    match property with
    | .x => .ok food.body.position.x
    | .y => .ok food.body.position.y
    | .radius => .ok food.body.radius
    | other => .error (.foodLacks other)

/-- The worms in turn order, then the rations by their numbers, as far as a filter lets them
through. -/
def entities (w : World α) : EntityFilter → List EntityId
  | .worm => w.worms.map Worm.id
  | .food => w.food.map Food.id
  | .any => w.worms.map Worm.id ++ w.food.map Food.id

/-- What programs see of a world. -/
def view (w : World α) : View α where
  kindOf := w.kindOf
  positionOf id := (w.bodyOf id).map Body.position
  radiusOf id := (w.bodyOf id).map Body.radius
  inspect := w.inspect
  teamOf id := (w.worm? id).bind Worm.team
  entities := w.entities

/-- The action points of a worm. -/
def actionPoints (w : World α) (id : EntityId) : Except (Error α) Nat := do
  return (← w.requireWorm id).actionPoints

/-- The cost of an action. A worm without action points has to wait for its next turn to jump. -/
def actionCost (w : World α) (id : EntityId) (action : Action α) : Except (Error α) Nat := do
  let worm ← w.requireWorm id
  match action with
  | .turn angle => worm.turnCost angle
  | .move => return (← w.planMove id).2
  | .jump =>
    -- A cost that cannot be paid makes a run wait instead of passing the jump over.
    if worm.actionPoints = 0 then return 1
    if w.canJump id then return worm.actionPoints
    throw (.cannotJump id)
  | .fire yieldPercent => w.fireCost id yieldPercent
  | .toggleWeapon => return 0

end World

namespace Command

/-- Let a worm do an action; a shot is fired and resolved. -/
def act (id : EntityId) : Action α → Command α Unit
  | .turn angle => turn id angle
  | .move => move id
  | .jump => jump id
  | .fire yieldPercent => do
    let _ ← fireAndResolve id yieldPercent (← world).config.timeStep
  | .toggleWeapon => selectNextWeapon id

end Command

/-- Programs run in simulations. -/
instance : Environment α (Simulation α) where
  view s := s.world.view
  actionPoints s := s.world.actionPoints
  actionCost s := s.world.actionCost
  perform s id action := (Command.act id action).carryOut s

namespace Simulation

/-- A program instance run on a simulation, which keeps what onlookers are told. -/
def runInstance (s : Simulation α) (i : ProgramInstance α) :
    Except (Error α) Outcome × ProgramInstance α × Simulation α :=
  let run := i.run s
  let news := if i.observed then run.effects.filter Effect.isTold else []
  (run.result, run.instanceAfter, { run.stateAfter with told := news.reverse ++ s.told })

end Simulation

namespace Command

/-- Run a program instance on the world. -/
def runInstance (i : ProgramInstance α) :
    Command α (Except (Error α) Outcome × ProgramInstance α) := do
  let (result, i, s) := (← get).runInstance i
  set s
  return (result, i)

/-- Run a worm's program, if it has one. -/
def runProgram (id : EntityId) : Command α (Option Outcome) := do
  let worm ← requireWorm id
  match worm.program with
  | none => return none
  | some program =>
    setWorm { worm with program := none }
    let (result, program) ← runInstance program
    -- The worm may have died of its own action, and then the program is lost with it.
    if let some worm := (← world).worm? id then
      setWorm { worm with program := some program }
    return some (← result)

/-- Run the program of the worm that has the turn. -/
def runCurrentProgram : Command α (Option Outcome) := do
  let some worm := (← world).currentWorm? | throw .noTurn
  runProgram worm.id

end Command

end WormBattle
