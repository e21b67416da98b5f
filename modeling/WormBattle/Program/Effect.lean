import WormBattle.Program.View

/-!
# Effects and events

What running programs do, in two forms.

* An **effect** is a step of a run that is felt outside the program's cursor: a variable is
  assigned, a value is printed, the world is asked to perform an action, an action is done.
* An **event** is what an onlooker is told: printed text and actions that were done. `EventLog`
  keeps the events of a battle.
-/

namespace WormBattle

/-- What a run does, in the order in which it does it. -/
inductive Effect (α : Type) where
  /-- A global variable gets a value. -/
  | assigned (name : String) (value : Value α)
  /-- A value is printed. -/
  | printed (value : Value α)
  /-- The world is asked to perform an action. -/
  | asked (worm : EntityId) (action : Action α)
  /-- The action that the world was asked for is done. -/
  | done (worm : EntityId) (action : Action α)
  deriving Repr, DecidableEq

/-- Whether onlookers are told of an effect. -/
def Effect.isTold {α : Type} : Effect α → Bool
  | printed _ | done .. => true
  | assigned .. | asked .. => false

/-- What onlookers are told. -/
inductive Event (α : Type) where
  /-- A text was printed. -/
  | print (text : String)
  /-- A worm moved. -/
  | moved (worm : EntityId)
  /-- A worm turned. -/
  | turned (worm : EntityId) (angle : α)
  /-- A worm jumped. -/
  | jumped (worm : EntityId)
  /-- A worm fired. -/
  | fired (worm : EntityId) (yieldPercent : Nat)
  /-- A worm took up its next weapon. -/
  | selectedNextWeapon (worm : EntityId)
  deriving Repr, DecidableEq

namespace Event

variable {α : Type}

/-- What onlookers are told of an action: toggling the weapon selects the next one. -/
def ofAction (worm : EntityId) : Action α → Event α
  | .turn angle => turned worm angle
  | .move => moved worm
  | .jump => jumped worm
  | .fire yieldPercent => fired worm yieldPercent
  | .toggleWeapon => selectedNextWeapon worm

/-- What onlookers are told of an effect, with `write` as the text of a value. -/
def ofEffect? (write : Value α → String) : Effect α → Option (Event α)
  | .printed value => some (print (write value))
  | .done worm action => some (ofAction worm action)
  | .assigned .. | .asked .. => none

/-- The text of a printing event. -/
def printed? : Event α → Option String
  | print text => some text
  | _ => none

end Event

/-- The events that have not been taken out yet, in order. -/
structure EventLog (α : Type) where
  /-- The events. -/
  events : List (Event α) := []
  deriving Repr

namespace EventLog

variable {α : Type}

/-- Add an event. -/
def record (log : EventLog α) (event : Event α) : EventLog α :=
  ⟨log.events ++ [event]⟩

/-- Add the events of some effects. -/
def report (log : EventLog α) (write : Value α → String) (effects : List (Effect α)) :
    EventLog α :=
  ⟨log.events ++ effects.filterMap (Event.ofEffect? write)⟩

/-- The printed texts, in order. -/
def printed (log : EventLog α) : List String :=
  log.events.filterMap Event.printed?

/-- Take all events out. -/
def take (log : EventLog α) : List (Event α) × EventLog α :=
  (log.events, ⟨[]⟩)

end EventLog

end WormBattle
