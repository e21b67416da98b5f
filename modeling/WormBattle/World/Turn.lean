import WormBattle.World.Registry

/-!
# Turns

The worms have their turns in a fixed order, and the dead are passed over. What competes is a
**faction**: a team, or a worm without a team. The game is over when at most one faction has a
living worm.
-/

namespace WormBattle

variable {α : Type} [Scalar α]

/-- What competes for the win. -/
inductive Faction where
  /-- A team. -/
  | team (name : String)
  /-- A worm without a team. -/
  | solo (id : EntityId)
  deriving Repr, DecidableEq

/-- Who has won. -/
inductive Winner where
  /-- A team. -/
  | team (name : String)
  /-- A worm without a team. -/
  | worm (name : String)
  deriving Repr, DecidableEq

/-- What a worm fights for. -/
def Worm.faction (worm : Worm α) : Faction :=
  match worm.team with
  | some name => .team name
  | none => .solo worm.id

namespace World

/-- The factions that have living worms, each once. -/
def factions (w : World α) : List Faction :=
  ((w.worms.filter Worm.isAlive).map Worm.faction).eraseDups

/-- Whether at most one faction is left. -/
def isGameOver (w : World α) : Bool :=
  decide (w.factions.length ≤ 1)

/-- The faction that is left, if it is exactly one. -/
def winner? (w : World α) : Option Winner :=
  match w.factions with
  | [.team name] => some (.team name)
  | [.solo id] => (w.worm? id).map fun worm => .worm worm.name
  | _ => none

/-- The first living worm from a place on, round the turn order; the place itself if all are dead.
The number bounds the steps. -/
def livingFrom (w : World α) : Nat → Nat → Nat
  | 0, index => index
  | steps + 1, index =>
    match w.worms[index]? with
    | some worm =>
      if worm.isAlive then index else livingFrom w steps ((index + 1) % w.worms.length)
    | none => index

/-- The place of the worm that has the turn after the present one. -/
def nextIndex (w : World α) (turn : Turn) : Nat :=
  let count := w.worms.length
  -- If the worm that had the turn has left, the next one has moved up to its place.
  let index := if turn.currentRemoved then turn.index % count else (turn.index + 1) % count
  w.livingFrom count index

/-- The worms when the turn of the one at a place starts. -/
def replenishAt (index : Nat) (worms : List (Worm α)) : Except (Error α) (List (Worm α)) := do
  match worms[index]? with
  | some worm => return worms.set index (← worm.replenish)
  | none => return worms

/-- Hand the turn to the worm at a place. -/
def handTurn (w : World α) (index number : Nat) : Except (Error α) (World α) := do
  return { w with
    worms := ← replenishAt index w.worms
    state := .inProgress { index, number, currentRemoved := false } }

end World

namespace Command

/-- Begin the game with the first worm. A world without worms is finished at once. -/
def start : Command α Unit := do
  let w ← world
  match w.state with
  | .notStarted =>
    if w.worms.isEmpty then modifyWorld fun w => { w with state := .finished }
    else
      let w ← w.handTurn 0 1
      modifyWorld fun _ => w
  | .terminated => throw .startTerminated
  | _ => throw .alreadyStarted

/-- Hand the turn to the next living worm, or finish the game. -/
def startNextTurn : Command α Unit := do
  let w ← world
  match w.state with
  | .inProgress turn =>
    if w.isGameOver then modifyWorld fun w => { w with state := .finished }
    else
      let w ← w.handTurn (w.nextIndex turn) (turn.number + 1)
      modifyWorld fun _ => w
  | _ => throw .notInProgress

end Command

end WormBattle
