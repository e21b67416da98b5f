import WormBattle.Search
import WormBattle.World.Registry

/-!
# Turning, moving, falling and eating

* A **move** takes a worm one step of at most its radius. Its candidates fan out from the direction
  that the worm faces and shrink towards the least move: the longest step that ends in contact with
  terrain is taken, and of several the one that diverges least. Without any contact the worm steps
  straight ahead into the open air.
* A **fall** takes a worm that hangs in the open air straight down, sample by sample, until it
  touches terrain. It costs hit points.
* A worm **eats** every ration that its disc overlaps, and grows each time.
-/

namespace WormBattle

open Scalar

variable {α : Type} [Scalar α]

/-! ### The fan of a move -/

namespace Worm

/-- The number of the last distance of the fan. -/
def lastDistance (worm : Worm α) : Nat :=
  toNat (maxNum (round ((1.0 - worm.config.minMoveFraction) / worm.config.searchStepFraction)) 0.0)

/-- The number of the last divergence of the fan. -/
def lastDivergence (worm : Worm α) : Nat :=
  toNat (maxNum
    (floor (worm.config.maxMoveDivergence / worm.config.moveDivergenceStep + 1e-9)) 0.0)

/-- The spot that the worm reaches by a step of the `k`-th distance at an angle to its direction. -/
def candidate (worm : Worm α) (k : Nat) (divergence : α) : Position α :=
  worm.position.towards (worm.direction + divergence)
    (worm.radius * (1.0 - (k : α) * worm.config.searchStepFraction))

/-- The angle of the `j`-th divergence of the fan. -/
def divergence (worm : Worm α) (j : Nat) : α :=
  (j : α) * worm.config.moveDivergenceStep

end Worm

namespace World

/-- A candidate, if the worm's disc has the given location there. -/
def spotIf (w : World α) (worm : Worm α) (location : Location) (spot : Position α) :
    Except (Error α) (Option (Position α)) := do
  if (← w.grid.classify spot worm.radius) = location then return some spot else return none

/-- The candidates of the `k`-th distance and the `j`-th divergence, to the left and then to the
right, that are in contact with terrain. -/
def contactPair (w : World α) (worm : Worm α) (k j : Nat) :
    Except (Error α) (Option (Position α)) := do
  match ← w.spotIf worm .contact (worm.candidate k (worm.divergence j)) with
  | some spot => return some spot
  | none => w.spotIf worm .contact (worm.candidate k (-worm.divergence j))

/-- The candidate straight ahead at the `k`-th distance, if it is in the open air. -/
def openAhead (w : World α) (worm : Worm α) (k : Nat) : Except (Error α) (Option (Position α)) :=
  w.spotIf worm .passable (worm.position.towards worm.direction
    (worm.radius * (1.0 - (k : α) * worm.config.searchStepFraction)))

/-- Where a move would take a worm, if anywhere. -/
def plannedMoveOf (w : World α) (worm : Worm α) : Except (Error α) (Option (Position α)) := do
  let config := worm.config
  let _ ← sampleCount (1.0 - config.minMoveFraction) config.searchStepFraction
  let _ ← sampleCount config.maxMoveDivergence config.moveDivergenceStep
  let distances := worm.lastDistance + 1
  let divergences := worm.lastDivergence + 1
  match ← firstSome? (fun k => firstSome? (w.contactPair worm k) 0 divergences) 0 distances with
  | some spot => return some spot
  | none => firstSome? (w.openAhead worm) 0 distances

/-- Where a move would take the worm of a number, if anywhere. -/
def plannedMove (w : World α) (id : EntityId) : Except (Error α) (Option (Position α)) := do
  w.plannedMoveOf (← w.requireWorm id)

/-- The cost of a move to a spot: the steeper, the dearer. -/
def moveCost (w : World α) (id : EntityId) (target : Position α) : Except (Error α) Nat := do
  let slope := (← w.requireWorm id).position.bearingTo target
  return ceilCost (Scalar.abs (cos slope) + Scalar.abs (4.0 * sin slope))

/-- The spot that a worm moves to and what the move costs. -/
def planMove (w : World α) (id : EntityId) : Except (Error α) (Position α × Nat) := do
  let some target := (← w.plannedMove id) | throw (.nowhereToMove id)
  return (target, ← w.moveCost id target)

/-- Whether a worm has a spot to move to and can pay for the move. -/
def canMove (w : World α) (id : EntityId) : Bool :=
  match w.planMove id, w.worm? id with
  | .ok (_, cost), some worm => decide (cost ≤ worm.actionPoints)
  | _, _ => false

/-- How the disc of a worm lies to the terrain. -/
def locationOf (w : World α) (id : EntityId) : Except (Error α) Location := do
  let worm ← w.requireWorm id
  w.grid.classify worm.position worm.radius

/-! ### Falling -/

/-- Whether a worm hangs in the open air inside the world. -/
def canFall (w : World α) (id : EntityId) : Bool :=
  match w.worm? id with
  | some worm =>
    w.grid.isInside worm.position worm.radius &&
      match w.grid.classify worm.position worm.radius with
      | .ok .passable => true
      | _ => false
  | none => false

/-- Follow a fall sample by sample. The samples that are left bound the search; `k` is the number of
the next one and `landed` the last spot that was in the open air. A fall out of the world ends
nowhere. -/
def fallFrom (w : World α) (id : EntityId) (start : Position α) (radius step : α) :
    Nat → Nat → Position α → Except (Error α) (Option (Position α))
  | 0, _, _ => .error (.neverLanded id)
  | left + 1, k, landed => do
    let spot : Position α := ⟨start.x, start.y - (k : α) * step⟩
    if !w.grid.isInside spot radius then return none
    match ← w.grid.classify spot radius with
    | .passable => fallFrom w id start radius step left (k + 1) spot
    | .contact => return some spot
    -- The surface lies between this sample and the one before, where the worm stays.
    | .impassable => return some landed

/-- Where a fall takes a worm: nowhere if it leaves the world. -/
def landing (w : World α) (worm : Worm α) : Except (Error α) (Option (Position α)) := do
  let start := worm.position
  let step := worm.radius * worm.config.searchStepFraction
  let samples ← sampleCount (maxNum start.y 0.0) step
  w.fallFrom worm.id start worm.radius step samples 1 start

end World

/-- The hit points that a fall of some metres costs. -/
def Worm.fallDamage (worm : Worm α) (distance : α) : Nat :=
  toPoints (maxNum (floor (worm.config.fallDamagePerMetre * distance)) 0.0)

namespace Command

/-- Turn a worm by an angle. -/
def turn (id : EntityId) (angle : α) : Command α Unit := do
  setWorm (← (← requireWorm id).turn angle)

/-- Select a worm's next weapon. -/
def selectNextWeapon (id : EntityId) : Command α Unit := do
  setWorm (← requireWorm id).selectNextWeapon

/-- Let a worm eat some rations one after the other. -/
def eatEach (id : EntityId) : List EntityId → Command α Unit
  | [] => return ()
  | food :: rest => do
    let _ ← removeFood food
    setWorm (← (← requireWorm id).grow)
    eatEach id rest

/-- Let a worm eat every ration that it overlaps, and tell how many these were. -/
def eat (id : EntityId) : Command α Nat := do
  let worm ← requireWorm id
  -- The rations are chosen at the radius that the worm has before the first one.
  let food := ((← world).food.filter fun f => f.body.overlaps worm.position worm.radius).map Food.id
  eatEach id food
  return food.length

/-- Let a worm fall. A fall out of the world is fatal, and so may be the damage of a fall. -/
def fall (id : EntityId) : Command α Unit := do
  let w ← world
  if !w.canFall id then throw (.cannotFall id)
  let worm ← requireWorm id
  match ← w.landing worm with
  | none => killWorm id
  | some landed =>
    let damage := worm.fallDamage (worm.position.y - landed.y)
    let worm := (← worm.setPosition landed).damage damage
    setWorm worm
    -- A worm that dies of its fall eats nothing.
    if worm.isAlive then
      let _ ← eat id
    else killWorm id

/-- Let a worm move one step, eat what it meets and fall if it has lost its ground. A worm that
leaves the world dies. That a fall from the new spot could be followed is made sure of before the
move is paid for. -/
def move (id : EntityId) : Command α Unit := do
  let w ← world
  let (target, cost) ← w.planMove id
  let worm ← requireWorm id
  -- A fall from the new spot has to have a number of samples, or the move is refused here.
  let _ ← sampleCount (maxNum target.y 0.0) (worm.radius * worm.config.searchStepFraction)
  let worm ← worm.spend cost
  setWorm worm
  setWorm (← worm.setPosition target)
  if w.grid.isInside target worm.radius then
    let _ ← eat id
    if (← world).canFall id then fall id
  else killWorm id

end Command

end WormBattle
