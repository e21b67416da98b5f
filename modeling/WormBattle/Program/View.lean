import WormBattle.Error

/-!
# What programs see and do

A running program sees the world through a `View` and acts on it through an `Environment`. Both are
open: whatever offers the operations can be played in.
-/

namespace WormBattle

/-- What a program may observe. Look-ups give nothing for entities that are not there. -/
structure View (α : Type) where
  /-- What an entity is. -/
  kindOf : EntityId → Option EntityKind
  /-- Where an entity is. -/
  positionOf : EntityId → Option (Position α)
  /-- How large an entity is. -/
  radiusOf : EntityId → Option α
  /-- A property of an entity. -/
  inspect : EntityId → Property → Except (Error α) α
  /-- The team of an entity. -/
  teamOf : EntityId → Option String
  /-- The living entities that a filter lets through, in a fixed order. -/
  entities : EntityFilter → List EntityId

/-- An action of a worm, with its arguments evaluated. -/
inductive Action (α : Type) where
  /-- Turn by an angle. -/
  | turn (angle : α)
  /-- Move one step. -/
  | move
  /-- Jump. -/
  | jump
  /-- Fire the selected weapon. -/
  | fire (yieldPercent : Nat)
  /-- Take up the other weapon. -/
  | toggleWeapon
  deriving Repr, DecidableEq

/-- The written name of an action. -/
def Action.name {α : Type} : Action α → String
  | turn _ => "turn"
  | move => "move"
  | jump => "jump"
  | fire _ => "fire"
  | toggleWeapon => "toggle_weapon"

/-- The states `σ` that programs can run in. -/
class Environment (α : outParam Type) (σ : Type) where
  /-- What a program sees. -/
  view : σ → View α
  /-- The action points of a worm. -/
  actionPoints : σ → EntityId → Except (Error α) Nat
  /-- The action points that an action would cost a worm; refused when the action cannot be planned
  at all. -/
  actionCost : σ → EntityId → Action α → Except (Error α) Nat
  /-- Let a worm do an action and pay for it. Also a refused action gives a state. -/
  perform : σ → EntityId → Action α → Except (Error α) Unit × σ

end WormBattle
