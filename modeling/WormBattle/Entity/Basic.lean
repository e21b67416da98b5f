import WormBattle.Entity.Worm

/-!
# Entities

Worms, rations and projectiles under one roof, as a world hands them back.
-/

namespace WormBattle

/-- An entity of any kind. -/
inductive Entity (α : Type) where
  /-- A worm. -/
  | worm (w : Worm α)
  /-- A ration. -/
  | food (f : Food α)
  /-- A projectile. -/
  | projectile (p : Projectile α)

namespace Entity

variable {α : Type}

/-- The entity's body. -/
def body : Entity α → Body α
  | worm w => w.body
  | food f => f.body
  | projectile p => p.body

/-- The entity with another body. -/
def withBody (e : Entity α) (body : Body α) : Entity α :=
  match e with
  | worm w => worm { w with body }
  | food f => food { f with body }
  | projectile p => projectile { p with body }

/-- What the entity is. -/
def kind : Entity α → EntityKind
  | worm _ => .worm
  | food _ => .food
  | projectile _ => .projectile

/-- The entity's number. -/
def id (e : Entity α) : EntityId :=
  e.body.id

end Entity

end WormBattle
