import WormBattle.Error.Message
import WormBattle.World.Program
import WormBattle.World.Turn

/-!
# Battles

A battle is played turn by turn: the worm that has the turn runs its program, and the turn goes on
to the next worm, until the game is over or a number of turns has been played. A program that fails
only costs its worm the turn. What breaks a battle off is that the turn cannot be handed on, which
is a crash. The `Summary` of a battle tells how it ended.
-/

namespace WormBattle

variable {α : Type} [Scalar α]

namespace Command

/-- Run the program of the worm that has the turn, if any worm has it, whatever comes of it. -/
def runTurn : Command α Unit := do
  if (← world).currentWorm?.isSome then
    try
      let _ ← runCurrentProgram
    catch _ => return ()

/-- Play at most so many further turns while the game is in progress, and count them in. -/
def playTurns : Nat → Nat → Command α Nat
  | 0, played => return played
  | left + 1, played => do
    if (← world).isInProgress then
      runTurn
      startNextTurn
      playTurns left (played + 1)
    else return played

/-- Play a battle of at most so many turns from its beginning, and tell how many were played. -/
def play (maxTurns : Nat) : Command α Nat := do
  start
  playTurns maxTurns 0

end Command

/-- What is told of a worm at the end. -/
structure WormSummary (α : Type) where
  /-- The worm's name. -/
  name : String
  /-- The worm's team. -/
  team : Option String
  /-- Where the worm is. -/
  position : Position α
  /-- The worm's radius. -/
  radius : α
  /-- The direction that the worm faces. -/
  direction : α
  /-- The points that are left to live. -/
  hitPoints : Nat
  /-- The points that are left for actions. -/
  actionPoints : Nat
  deriving Repr

/-- How a battle ended. -/
structure Summary (α : Type) where
  /-- Who has won. -/
  winner : Option Winner
  /-- Whether the game is over. -/
  finished : Bool
  /-- The number of turns that were played. -/
  turns : Nat
  /-- The worms that are left, in turn order. -/
  worms : List (WormSummary α)
  /-- The number of rations that are left. -/
  foodLeft : Nat
  /-- What the onlookers were told. -/
  events : List (Event α)
  deriving Repr

/-- What is told of a worm. -/
def Worm.summary (worm : Worm α) : WormSummary α :=
  { name := worm.name
    team := worm.team
    position := worm.position
    radius := worm.radius
    direction := worm.direction
    hitPoints := worm.hitPoints
    actionPoints := worm.actionPoints }

/-- What is told of a battle after so many turns. -/
def World.summary (w : World α) (turns : Nat) (events : List (Event α)) : Summary α :=
  { winner := w.winner?
    finished := w.state == .finished
    turns
    worms := w.worms.map Worm.summary
    foodLeft := w.food.length
    events }

/-- A battle of at most so many turns played on a world, and how it ended. -/
def Simulation.play (s : Simulation Float) (maxTurns : Nat) :
    Except (Error Float) (Summary Float) :=
  match (Command.play maxTurns).carryOut s with
  | (.ok turns, s) =>
    let log := EventLog.report {} Value.text s.effects
    .ok (s.world.summary turns log.events)
  | (.error e, _) => .error e

end WormBattle
