import WormBattle.Entity.Projectile
import WormBattle.Program.Instance
import WormBattle.Text.Name

/-!
# Worms

A worm faces a direction and has **action points**, which its commands cost, and **hit points**,
which it loses when it falls or is struck. Of either it can have as many as its mass in kilograms,
rounded. A worm keeps the settings that it was made with.
-/

namespace WormBattle

open Scalar

/-- A worm. -/
structure Worm (α : Type) where
  /-- The worm's body. -/
  body : Body α
  /-- The worm's name. -/
  name : String
  /-- The direction that the worm faces. -/
  direction : α
  /-- The points that are left for actions. -/
  actionPoints : Nat
  /-- The points that are left to live. -/
  hitPoints : Nat
  /-- The worm's team. -/
  team : Option String
  /-- The selected weapon. -/
  weapon : WeaponKind
  /-- The program that the worm runs. -/
  program : Option (ProgramInstance α)
  /-- The settings that the worm was made with. -/
  config : WormConfig α

/-- A fractional cost in points: rounded up, but for a billionth that is taken for noise. -/
def ceilCost {α : Type} [Scalar α] (cost : α) : Nat :=
  toPoints (maxNum (ceil (cost - 1e-9)) 0.0)

namespace Worm

variable {α : Type} [Scalar α]

/-- A text has to be the name of a worm. -/
def checkName (name : String) : Except (Error α) Unit :=
  if Text.isWormName name then .ok () else .error (.illegalWormName name)

/-- An angle has to be a direction. -/
def checkDirection (direction : α) : Except (Error α) Unit :=
  if Angle.isDirection direction then .ok () else .error (.illegalDirection direction)

/-! ### Parts -/

/-- The worm's number. -/
def id (w : Worm α) : EntityId :=
  w.body.id

/-- Where the worm is. -/
def position (w : Worm α) : Position α :=
  w.body.position

/-- How large the worm is. -/
def radius (w : Worm α) : α :=
  w.body.radius

/-- The worm's mass. -/
def mass (w : Worm α) : α :=
  Sphere.mass w.config.density w.radius

/-- The most action points that the worm can have. -/
def maxActionPoints (w : Worm α) : Nat :=
  toPoints (round w.mass)

/-- The most hit points that the worm can have. -/
def maxHitPoints (w : Worm α) : Nat :=
  toPoints (round w.mass)

/-- A worm lives while it has hit points. -/
def isAlive (w : Worm α) : Bool :=
  decide (0 < w.hitPoints)

/-- The force of the worm's jump: it carries its weight, and the more the more action points it
has. -/
def jumpForce (w : Worm α) : α :=
  w.config.jumpForcePerActionPoint * (w.actionPoints : α) + w.mass * gravity

/-- The worm as a sphere to be launched. -/
def launch (w : Worm α) : Launch α :=
  { position := w.position
    radius := w.radius
    density := w.config.density
    force := w.jumpForce
    direction := w.direction }

/-! ### Making and changing worms -/

/-- A detached worm with all its points. -/
def make (name : String) (position : Position α) (direction radius : α) (config : WormConfig α)
    (id : EntityId) : Except (Error α) (Worm α) := do
  checkName name
  checkDirection direction
  let worm : Worm α :=
    { body := ← Body.make position radius config.minRadius id
      name
      direction
      actionPoints := 0
      hitPoints := 0
      team := none
      weapon := .rifle
      program := none
      config }
  return { worm with actionPoints := worm.maxActionPoints, hitPoints := worm.maxHitPoints }

/-- The worm under another name. -/
def rename (w : Worm α) (name : String) : Except (Error α) (Worm α) := do
  checkName name
  return { w with name }

/-- The worm facing another direction. -/
def setDirection (w : Worm α) (direction : α) : Except (Error α) (Worm α) := do
  checkDirection direction
  return { w with direction }

/-- The worm at another position. -/
def setPosition (w : Worm α) (position : Position α) : Except (Error α) (Worm α) := do
  return { w with body := ← w.body.setPosition position }

/-- The worm with the next weapon selected. -/
def selectNextWeapon (w : Worm α) : Worm α :=
  { w with weapon := w.weapon.next }

/-- The worm with a program, which is bound to it. -/
def attachProgram (w : Worm α) (program : ProgramInstance α) : Worm α :=
  { w with program := some (program.bind w.id) }

/-! ### Points -/

/-- The cost of a turn, which is charged for the short way round. -/
def turnCost (w : Worm α) (angle : α) : Except (Error α) Nat :=
  if !isFinite angle then .error (.illegalTurn angle)
  else
    .ok (ceilCost (w.config.turnCostFullCircle * Scalar.abs (Angle.toTurn angle) / tau))

/-- Whether the worm can pay for a turn. -/
def canTurn (w : Worm α) (angle : α) : Bool :=
  match w.turnCost angle with
  | .ok cost => decide (cost ≤ w.actionPoints)
  | .error _ => false

/-- The worm after paying action points, of which it must have enough. -/
def spend (w : Worm α) (cost : Nat) : Except (Error α) (Worm α) :=
  if w.actionPoints < cost then .error (.shortOfPoints w.name cost w.actionPoints)
  else .ok { w with actionPoints := w.actionPoints - cost }

/-- The worm after a turn that it has paid for. -/
def turn (w : Worm α) (angle : α) : Except (Error α) (Worm α) := do
  let cost ← w.turnCost angle
  let w ← w.spend cost
  return { w with direction := Angle.toDirection (w.direction + angle) }

/-- The worm without action points. -/
def drain (w : Worm α) : Worm α :=
  { w with actionPoints := 0 }

/-- The worm after losing hit points, of which none are left if it had fewer. -/
def damage (w : Worm α) (amount : Nat) : Worm α :=
  { w with hitPoints := w.hitPoints - amount }

/-- The hit points that the worm has and those that it gets back, counted without bound. -/
def regained (w : Worm α) : Nat :=
  w.hitPoints + w.config.hitPointRegen.toNat

/-- The worm with all its action points, and some hit points back. -/
def rested (w : Worm α) : Worm α :=
  { w with
    actionPoints := w.maxActionPoints
    hitPoints := min w.regained w.maxHitPoints }

/-- The worm at the start of its turn. The sum is taken in a word before it is cut down to what the
worm can have, and a sum that no word holds is a crash. -/
def replenish (w : Worm α) : Except (Error α) (Worm α) :=
  if maxPoints < w.regained then .error .overflow else .ok w.rested

/-- The worm after eating: larger, with the points that it had as far as it can still have them. -/
def grow (w : Worm α) : Except (Error α) (Worm α) := do
  let w := { w with body := ← w.body.setRadius (w.radius * w.config.growthFactor) }
  return { w with
    actionPoints := min w.actionPoints w.maxActionPoints
    hitPoints := min w.hitPoints w.maxHitPoints }

end Worm

end WormBattle
