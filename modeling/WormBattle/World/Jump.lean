import WormBattle.World.Move

/-!
# Jumping

A jump is followed along the worm's unclamped trajectory, sample by sample. It ends at the first
sample that is outside the world, or in contact with terrain at least a radius away from the start;
where the worm would run into terrain, it ends at the sample before, if that is as far away.
-/

namespace WormBattle

open Scalar

variable {α : Type} [Scalar α]

/-- The end of a jump. -/
inductive Landing (α : Type) where
  /-- On the ground. -/
  | ground (position : Position α) (time : α)
  /-- Outside the world. -/
  | exit (position : Position α) (time : α)
  deriving Repr

namespace Landing

/-- Where the jump ends. -/
def position : Landing α → Position α
  | ground position _ => position
  | exit position _ => position

/-- When the jump ends. -/
def time : Landing α → α
  | ground _ time => time
  | exit _ time => time

end Landing

namespace World

/-- Follow a jump sample by sample. The samples that are left bound the search; `k` is the number of
the next one, and the last two arguments are the sample before it and its location. -/
def jumpFrom (w : World α) (ballistic : Ballistic α) (radius timeStep : α) :
    Nat → Nat → Position α → Location → Except (Error α) (Option (Landing α))
  | 0, _, _, _ => .error .jumpNeverEnded
  | left + 1, k, before, beforeLocation => do
    let start := ballistic.origin
    let time := (k : α) * timeStep
    let sample := ballistic.positionAt time
    if !w.grid.isInside sample radius then return some (.exit sample time)
    match ← w.grid.classify sample radius with
    | .contact =>
      -- Contact near the start is the ground that the worm has pushed off from.
      if radius ≤ sample.distance start then return some (.ground sample time)
      jumpFrom w ballistic radius timeStep left (k + 1) sample .contact
    | .impassable =>
      if radius ≤ before.distance start ∧ beforeLocation ≠ .impassable then
        return some (.ground before (time - timeStep))
      return none
    | .passable => jumpFrom w ballistic radius timeStep left (k + 1) sample .passable

/-- Where a worm's jump ends, if it gets off the ground and anywhere. -/
def jumpLanding (w : World α) (worm : Worm α) (timeStep : α) :
    Except (Error α) (Option (Landing α)) := do
  checkTimeStep timeStep
  let ballistic := worm.launch.ballistic
  if !ballistic.canFly then return none
  let samples ← sampleCount (ballistic.timeToSinkBelow 0.0) timeStep
  let location ← w.grid.classify worm.position worm.radius
  w.jumpFrom ballistic worm.radius timeStep samples 1 worm.position location

/-- Where the jump of the worm of a number ends, if it can jump: it has action points, is not inside
terrain, and its jump ends somewhere. -/
def jumpTarget? (w : World α) (id : EntityId) (timeStep : α) : Option (Landing α) :=
  match w.worm? id with
  | none => none
  | some worm =>
    if worm.actionPoints = 0 then none
    else
      match w.grid.classify worm.position worm.radius with
      | .ok .impassable | .error _ => none
      | .ok _ =>
        match w.jumpLanding worm timeStep with
        | .ok landing => landing
        | .error _ => none

/-- Whether a worm can jump, with the configured sampling step. -/
def canJump (w : World α) (id : EntityId) : Bool :=
  (w.jumpTarget? id w.config.timeStep).isSome

/-- How long a worm's jump takes. -/
def jumpTime (w : World α) (id : EntityId) (timeStep : α) : Except (Error α) α := do
  let worm ← w.requireWorm id
  let some landing := (← w.jumpLanding worm timeStep) | throw (.cannotJump id)
  return landing.time

end World

namespace Command

/-- Let a worm jump, following its flight at a sampling step. A jump takes all action points that
are left. A worm that jumps out of the world dies, one that lands eats what it meets. -/
def jumpWith (id : EntityId) (timeStep : α) : Command α Unit := do
  checkTimeStep timeStep
  let some landing := (← world).jumpTarget? id timeStep | throw (.cannotJump id)
  -- The points go first, although the spot may turn out to be one where nothing can be.
  let worm := (← requireWorm id).drain
  setWorm worm
  setWorm (← worm.setPosition landing.position)
  match landing with
  | .exit .. => killWorm id
  | .ground .. =>
    let _ ← eat id

/-- Let a worm jump with the configured sampling step. -/
def jump (id : EntityId) : Command α Unit := do
  jumpWith id (← world).config.timeStep

end Command

end WormBattle
