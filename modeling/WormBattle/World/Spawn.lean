import WormBattle.Search
import WormBattle.World.Registry

/-!
# Random placement

A random point of the world is walked towards the centre until a disc touches terrain there, and if
it never does, another point is tried.
-/

namespace WormBattle

open Scalar

variable {α : Type} [Scalar α]

namespace World

/-- The centre of the world. -/
def centre (w : World α) : Position α :=
  ⟨w.grid.width / 2.0, w.grid.height / 2.0⟩

/-- The `k`-th point of the walk from a start to the centre, if a disc lies there inside the world
and in contact with terrain. -/
def foothold? (w : World α) (radius step distance bearing : α) (start : Position α) (k : Nat) :
    Except (Error α) (Option (Position α)) := do
  let spot := start.towards bearing (minNum ((k : α) * step) distance)
  if !w.grid.isInside spot radius then return none
  if (← w.grid.classify spot radius) = .contact then return some spot else return none

/-- The first spot on the walk from a start to the centre where a disc has contact. -/
def walk (w : World α) (radius step : α) (start : Position α) :
    Except (Error α) (Option (Position α)) := do
  let distance := start.distance w.centre
  let bearing := start.bearingTo w.centre
  let samples ← sampleCount distance step
  firstSome? (w.foothold? radius step distance bearing start) 0 samples

end World

namespace Command

/-- Draw a random number. -/
def draw : Command α α := do
  let (x, random) := (← world).random.next
  modifyWorld fun w => { w with random }
  return x

/-- Try so many random points. -/
def spotAfter (radius step : α) : Nat → Command α (Option (Position α))
  | 0 => return none
  | attempts + 1 => do
    let w ← world
    let x := (← draw) * w.grid.width
    let y := (← draw) * w.grid.height
    match ← w.walk radius step ⟨x, y⟩ with
    | some spot => return some spot
    | none => spotAfter radius step attempts

/-- A random spot where a disc touches terrain. -/
def findSpot (radius : α) : Command α (Position α) := do
  let config := (← world).config
  let attempts := config.spawn.attempts
  match ← spotAfter radius (radius * config.worm.searchStepFraction) attempts with
  | some spot => return spot
  | none => throw (.noPlace radius attempts)

/-- Add a worm at a random spot, facing a random direction and named by its place in the turn
order. -/
def addNewWorm (program : Option (ProgramInstance α)) : Command α EntityId := do
  let w ← world
  w.checkOpen
  let radius := w.config.worm.spawnRadius
  let spot ← findSpot radius
  let direction := (← draw) * 2.0 * pi
  let name := s!"Worm {w.worms.length + 1}"
  let worm ← mint (Worm.make name spot direction radius w.config.worm)
  match program with
  | some program => addWorm (worm.attachProgram program)
  | none => addWorm worm

/-- Add a ration at a random spot. -/
def addNewFood : Command α EntityId := do
  let w ← world
  w.checkOpen
  let spot ← findSpot w.config.food.radius
  addFood (← mint (Food.make spot w.config.food))

end Command

end WormBattle
