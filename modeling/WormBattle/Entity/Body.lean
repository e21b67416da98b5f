import WormBattle.Error

/-!
# Bodies

Every entity has a **body**: its number, its disc and its standing towards worlds. A body is made
detached, can be listed by one world at a time, and once terminated stays so.
-/

namespace WormBattle

open Scalar

/-- Where an entity stands towards worlds. -/
inductive Membership where
  /-- In no world. -/
  | detached
  /-- Listed by a world. -/
  | member (world : WorldId)
  /-- Gone for good. -/
  | terminated
  deriving Repr, DecidableEq

/-- The written name of a membership. -/
def Membership.name : Membership → String
  | detached => "detached"
  | member _ => "member"
  | terminated => "terminated"

/-- What all entities have. -/
structure Body (α : Type) where
  /-- The entity's number. -/
  id : EntityId
  /-- The centre of the entity's disc. -/
  position : Position α
  /-- The radius of the entity's disc. -/
  radius : α
  /-- The least radius that the entity may have. -/
  minRadius : α
  /-- Where the entity stands towards worlds. -/
  membership : Membership
  deriving Repr

/-- The least positive normal double: the minimum for the radii of rations and projectiles. -/
def leastRadius {α : Type} [Scalar α] : α :=
  2.2250738585072014e-308

namespace Body

variable {α : Type} [Scalar α]

/-- Positions are finite. -/
def checkPosition (position : Position α) : Except (Error α) Unit :=
  if position.isFinite then .ok () else .error (.illegalPosition position)

/-- Radii are finite and not below a minimum. -/
def checkRadius (radius minimum : α) : Except (Error α) Unit :=
  if !isFinite radius || radius < minimum then .error (.radiusBelowMinimum radius minimum)
  else .ok ()

/-- A detached body. -/
def make (position : Position α) (radius minRadius : α) (id : EntityId) :
    Except (Error α) (Body α) := do
  checkPosition position
  checkRadius radius minRadius
  return { id, position, radius, minRadius, membership := .detached }

/-- The body at another position. -/
def setPosition (b : Body α) (position : Position α) : Except (Error α) (Body α) := do
  checkPosition position
  return { b with position }

/-- The body with another radius. -/
def setRadius (b : Body α) (radius : α) : Except (Error α) (Body α) := do
  checkRadius radius b.minRadius
  return { b with radius }

/-- The body listed by a world. -/
def attach (b : Body α) (world : WorldId) : Except (Error α) (Body α) :=
  match b.membership with
  | .detached => .ok { b with membership := .member world }
  | .member other =>
    if other = world then .error (.alreadyHere b.id) else .error (.inAnotherWorld b.id)
  | .terminated => .error (.entityTerminated b.id)

/-- The body let go by its world, if it has one. -/
def detach (b : Body α) : Body α :=
  match b.membership with
  | .member _ => { b with membership := .detached }
  | _ => b

/-- The terminated body; a member has to be let go first. -/
def terminate (b : Body α) : Except (Error α) (Body α) :=
  match b.membership with
  | .detached => .ok { b with membership := .terminated }
  | .member _ => .error (.stillListed b.id)
  | .terminated => .error (.alreadyTerminated b.id)

/-- Whether the body has been terminated. -/
def isTerminated (b : Body α) : Bool :=
  b.membership == .terminated

/-- The world that lists the body. -/
def world? (b : Body α) : Option WorldId :=
  match b.membership with
  | .member world => some world
  | _ => none

/-- Whether the body's disc and another one overlap; rims may touch. -/
def overlaps (b : Body α) (position : Position α) (radius : α) : Bool :=
  let reach := b.radius + radius
  decide (b.position.squaredDistance position < reach * reach)

end Body

end WormBattle
