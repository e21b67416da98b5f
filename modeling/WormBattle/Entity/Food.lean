import WormBattle.Config
import WormBattle.Entity.Body

/-!
# Food

A ration of food is a body and nothing else. Its radius only has to be a positive normal number.
-/

namespace WormBattle

/-- A ration. -/
structure Food (α : Type) where
  /-- The ration's body. -/
  body : Body α
  deriving Repr

namespace Food

variable {α : Type} [Scalar α]

/-- A detached ration. -/
def make (position : Position α) (config : FoodConfig α) (id : EntityId) :
    Except (Error α) (Food α) := do
  return ⟨← Body.make position config.radius leastRadius id⟩

/-- The ration's number. -/
def id (f : Food α) : EntityId :=
  f.body.id

end Food

end WormBattle
