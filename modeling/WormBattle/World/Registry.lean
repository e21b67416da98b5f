import WormBattle.World.Basic

/-!
# The registry

How entities and teams come into a world and leave it. An entity that enters becomes a member of the
world; one that leaves is terminated and handed back.
-/

namespace WormBattle

/-- The turn after the worm at a place has left: the places behind it move up, and if it had the
turn, that is noted. -/
def Turn.removed (turn : Turn) (index : Nat) : Turn :=
  if index < turn.index then { turn with index := turn.index - 1 }
  else if index = turn.index then { turn with currentRemoved := true }
  else turn

variable {α : Type} [Scalar α]

namespace World

/-- A world that has been terminated takes no part in anything. -/
def checkOpen (w : World α) : Except (Error α) Unit :=
  if w.isTerminated then .error (.worldTerminated w.id) else .ok ()

/-- An entity can enter when it has not been terminated and its number is not in use. -/
def checkRegistrable (w : World α) (body : Body α) : Except (Error α) Unit := do
  w.checkOpen
  if body.isTerminated then throw (.entityTerminated body.id)
  if w.contains body.id then throw (.alreadyHere body.id)

/-- The rations with one more, at the place that its number gives it. -/
def insertFood (food : Food α) : List (Food α) → List (Food α)
  | [] => [food]
  | f :: rest =>
    if food.id.value < f.id.value then food :: f :: rest else f :: insertFood food rest

/-- The state after the worm at a place has left. -/
def stateWithout (w : World α) (index : Nat) : WorldState :=
  match w.state with
  | .inProgress turn => .inProgress (turn.removed index)
  | state => state

end World

namespace Command

/-! ### Entering -/

/-- Add a worm at the end of the turn order. -/
def addWorm (worm : Worm α) : Command α EntityId := do
  let w ← world
  w.checkRegistrable worm.body
  if let some team := worm.team then
    if (w.team? team).isNone then throw (.foreignTeam team)
  let body ← worm.body.attach w.id
  modifyWorld fun w => { w with worms := w.worms ++ [{ worm with body }] }
  return worm.id

/-- Add a ration. -/
def addFood (food : Food α) : Command α EntityId := do
  let w ← world
  w.checkRegistrable food.body
  let body ← food.body.attach w.id
  modifyWorld fun w => { w with food := World.insertFood { food with body } w.food }
  return food.id

/-- Take out the projectile in flight. -/
def removeProjectile : Command α (Projectile α) := do
  let some projectile := (← world).projectile | throw .noProjectile
  modifyWorld fun w => { w with projectile := none }
  return { projectile with body := ← projectile.body.detach.terminate }

/-- Put a projectile into flight in place of the one that was. -/
def setProjectile (projectile : Projectile α) : Command α EntityId := do
  let w ← world
  w.checkRegistrable projectile.body
  let body ← projectile.body.attach w.id
  -- The old projectile goes only when the new one has been accepted.
  if w.projectile.isSome then
    let _ ← removeProjectile
  modifyWorld fun w => { w with projectile := some { projectile with body } }
  return projectile.id

/-- Add a team. -/
def addTeam (team : Team) : Command α Unit := do
  let w ← world
  w.checkOpen
  if (w.team? team.name).isSome then throw (.teamExists team.name)
  let maximum := w.config.spawn.maxTeams
  if maximum ≤ w.teams.length then throw (.tooManyTeams maximum)
  modifyWorld fun w => { w with teams := w.teams ++ [team] }

/-- Let a worm join a team. -/
def joinTeam (id : EntityId) (team : String) : Command α Unit := do
  if ((← world).team? team).isNone then throw (.noSuchTeam team)
  let worm ← requireWorm id
  setWorm { worm with team := some team }

/-! ### Leaving -/

/-- Take a worm out of the world. -/
def removeWorm (id : EntityId) : Command α (Worm α) := do
  let w ← world
  match w.worms.findIdx? fun worm => worm.id = id with
  | none => throw (.notAWorm id)
  | some index =>
    let worm ← w.requireWorm id
    modifyWorld fun w =>
      { w with worms := w.worms.eraseIdx index, state := w.stateWithout index }
    return { worm with body := ← worm.body.detach.terminate }

/-- Take a ration out of the world. -/
def removeFood (id : EntityId) : Command α (Food α) := do
  let some food := (← world).food? id | throw (.notFood id)
  modifyWorld fun w => { w with food := w.food.eraseP fun f => f.id = id }
  return { food with body := ← food.body.detach.terminate }

/-- Take a dead worm out of the world. -/
def killWorm (id : EntityId) : Command α Unit := do
  let _ ← removeWorm id

/-- The entity that a world lets go of for good. -/
def released (e : Entity α) : Entity α :=
  let body := e.body.detach
  match body.terminate with
  | .ok body => e.withBody body
  | .error _ => e.withBody body

/-- Terminate the world and hand back all that it held: the worms in turn order, the rations by
their numbers, and the projectile. A terminated world has nothing to hand back. -/
def terminate : Command α (List (Entity α)) := do
  let w ← world
  if w.isTerminated then return []
  let held :=
    w.worms.map Entity.worm ++ w.food.map Entity.food ++ (w.projectile.map .projectile).toList
  modifyWorld fun w =>
    { w with worms := [], food := [], projectile := none, teams := [], state := .terminated }
  return held.map released

end Command

end WormBattle
