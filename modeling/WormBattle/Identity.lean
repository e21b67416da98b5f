/-!
# Identities

Worms, rations and projectiles are **entities**, each with a number that no other entity has; a
**world** has a number of its own. Numbers are handed out by an `IdSupply`, in the order in which
entities come into being, and a refused construction uses none up.
-/

namespace WormBattle

/-- The number of an entity. -/
structure EntityId where
  /-- The place in the order of creation. -/
  value : Nat
  deriving Repr, DecidableEq

/-- The name of a world. -/
structure WorldId where
  /-- The place in the order of creation. -/
  value : Nat
  deriving Repr, DecidableEq

/-- What an entity is. -/
inductive EntityKind where
  /-- A combatant. -/
  | worm
  /-- A ration of food. -/
  | food
  /-- A shot in flight. -/
  | projectile
  deriving Repr, DecidableEq

namespace EntityKind

/-- The written name of a kind. -/
def name : EntityKind → String
  | worm => "worm"
  | food => "food"
  | projectile => "projectile"

end EntityKind

/-- The numbers that are still free: all from `next` on. -/
structure IdSupply where
  /-- The number that the next entity gets. -/
  next : Nat := 1
  deriving Repr, DecidableEq

namespace IdSupply

/-- Make an entity under the next free number. The number is used up only if the entity comes into
being. -/
def mint {ε β : Type} (supply : IdSupply) (make : EntityId → Except ε β) :
    Except ε β × IdSupply :=
  match make ⟨supply.next⟩ with
  | .ok entity => (.ok entity, ⟨supply.next + 1⟩)
  | .error e => (.error e, supply)

end IdSupply

end WormBattle
