import WormBattle.Position
import WormBattle.Program.Defect

/-!
# Refusals

Why an operation was refused. Each constructor of `Error` is one cause with what belongs to it; its
**kind** says whether the fault lies with an argument, with the state of the battle, or with a text
or file from outside. The wording is in `WormBattle.Error.Message`.

A **crash** is the one cause that is no refusal: the program was not made for it, and breaks off.
There is nothing to go on with then, so nothing handles a crash.
-/

namespace WormBattle

/-- The kinds of refusals. -/
inductive ErrorKind where
  /-- An argument is outside what the operation takes. -/
  | invalidArgument
  /-- The operation does not go with the present state. -/
  | invalidState
  /-- A text is not of the form that was asked for. -/
  | serialization
  /-- A file could not be read. -/
  | io
  /-- The program breaks off. -/
  | crash
  deriving Repr, DecidableEq

/-- The causes of refusals. -/
inductive Error (α : Type) where
  /-- A time is negative or not finite. -/
  | illegalTime (time : α)
  /-- A time step is not positive and finite. -/
  | illegalTimeStep (step : α)
  /-- A sampling step is not positive and finite. -/
  | illegalStep (step : α)
  /-- A sampled span is negative or not finite. -/
  | illegalSpan (span : α)
  /-- A span holds more samples than are ever taken. -/
  | tooManySamples (step span : α)
  /-- A setting that has to be positive is not. -/
  | settingNotPositive (setting : String) (value : α)
  /-- The inflation that detects contact is below one or not finite. -/
  | illegalInflation (value : α)
  /-- The size of a world is not positive and finite. -/
  | illegalDimensions (width height : α)
  /-- A position is not finite. -/
  | illegalPosition (position : Position α)
  /-- The radius of a disc is negative or undefined. -/
  | illegalRadius (radius : α)
  /-- The radius of an entity is below its minimum or not finite. -/
  | radiusBelowMinimum (radius minimum : α)
  /-- An angle is not a direction. -/
  | illegalDirection (direction : α)
  /-- The angle of a turn is not finite. -/
  | illegalTurn (angle : α)
  /-- A yield is above the maximum. -/
  | illegalYield (yieldPercent maximum : Nat)
  /-- A text is not the name of a worm. -/
  | illegalWormName (name : String)
  /-- A text is not the name of a team. -/
  | illegalTeamName (name : String)
  /-- A team of that name is already there. -/
  | teamExists (name : String)
  /-- A worm is to join a team that is not there. -/
  | noSuchTeam (name : String)
  /-- A program is not well-formed. -/
  | illFormed (defect : Defect)
  /-- A value of one kind stands where another is needed. -/
  | kindMismatch (expected found : ValueType)
  /-- A variable without a value. -/
  | unboundVariable (name : String)
  /-- Two values of different kinds are compared. -/
  | incomparable (left right : ValueType)
  /-- A variable is to take a value of another kind. -/
  | assignmentType (value : ValueType) (name : String) (declared : ValueType)
  /-- A property of the null reference is read. -/
  | inspectNull
  /-- A property is read of an entity that is not in the world. -/
  | notInThisWorld (id : EntityId)
  /-- A property is read of food that only worms have. -/
  | foodLacks (property : Property)
  /-- An expression about the world is evaluated without one. -/
  | needsWorld
  /-- A program that no worm runs asks for its worm. -/
  | unbound
  /-- The worm that searches is in no world. -/
  | notPlaced (id : EntityId)
  /-- The point at which a program is to go on is not a point of the program. -/
  | cursorMismatch
  /-- A program that is not well-formed is to run. -/
  | cannotRunIllFormed
  /-- A program that has failed is to run again. -/
  | faulted
  /-- An entity is not a worm of the world. -/
  | notAWorm (id : EntityId)
  /-- An entity is not food of the world. -/
  | notFood (id : EntityId)
  /-- The world holds no projectile that could be removed. -/
  | noProjectile
  /-- The world holds no projectile that could fly on. -/
  | noProjectileInFlight
  /-- An entity is in the world already. -/
  | alreadyHere (id : EntityId)
  /-- An entity is in another world. -/
  | inAnotherWorld (id : EntityId)
  /-- An entity has been terminated. -/
  | entityTerminated (id : EntityId)
  /-- An entity is to be terminated while a world lists it. -/
  | stillListed (id : EntityId)
  /-- An entity is to be terminated twice. -/
  | alreadyTerminated (id : EntityId)
  /-- The world has been terminated. -/
  | worldTerminated (world : WorldId)
  /-- A worm comes with a team that the world does not have. -/
  | foreignTeam (name : String)
  /-- The world has all the teams that it may have. -/
  | tooManyTeams (maximum : Nat)
  /-- No spot for a disc was found. -/
  | noPlace (radius : α) (attempts : Nat)
  /-- A terminated world is to start. -/
  | startTerminated
  /-- A world is to start twice. -/
  | alreadyStarted
  /-- There is no next turn. -/
  | notInProgress
  /-- No worm has the turn. -/
  | noTurn
  /-- A worm has too few action points. -/
  | shortOfPoints (name : String) (cost available : Nat)
  /-- A worm has too few action points for a shot. -/
  | shortOfPointsToFire (name : String) (cost available : Nat)
  /-- A worm has no spot to move to. -/
  | nowhereToMove (id : EntityId)
  /-- A worm does not hang in the air. -/
  | cannotFall (id : EntityId)
  /-- A fall ran out of samples. -/
  | neverLanded (id : EntityId)
  /-- A worm cannot jump. -/
  | cannotJump (id : EntityId)
  /-- A jump ran out of samples. -/
  | jumpNeverEnded
  /-- A worm inside terrain is to fire. -/
  | firesInsideTerrain (id : EntityId)
  /-- The flight of a projectile ran out of samples. -/
  | flightNeverEnded
  /-- A text is not of the form that was asked for. -/
  | malformed
  /-- A file could not be read. -/
  | unreadable
  /-- A sum of points is more than a word holds. -/
  | overflow
  deriving Repr, DecidableEq

namespace Error

variable {α : Type}

/-- The kind of a cause. -/
def kind : Error α → ErrorKind
  | illegalTime _ | illegalTimeStep _ | illegalStep _ | illegalSpan _ | tooManySamples ..
  | settingNotPositive .. | illegalInflation _ | illegalDimensions .. | illegalPosition _
  | illegalRadius _ | radiusBelowMinimum .. | illegalDirection _ | illegalTurn _ | illegalYield ..
  | illegalWormName _ | illegalTeamName _ | teamExists _ | noSuchTeam _
  | illFormed _ | kindMismatch .. | unboundVariable _ | incomparable .. | assignmentType ..
  | inspectNull | notInThisWorld _ | foodLacks _ => .invalidArgument
  | needsWorld | unbound | notPlaced _ | cursorMismatch | cannotRunIllFormed | faulted
  | notAWorm _ | notFood _ | noProjectile | noProjectileInFlight | alreadyHere _
  | inAnotherWorld _ | entityTerminated _ | stillListed _ | alreadyTerminated _
  | worldTerminated _ | foreignTeam _ | tooManyTeams _ | noPlace ..
  | startTerminated | alreadyStarted | notInProgress | noTurn
  | shortOfPoints .. | shortOfPointsToFire .. | nowhereToMove _ | cannotFall _ | neverLanded _
  | cannotJump _ | jumpNeverEnded | firesInsideTerrain _ | flightNeverEnded => .invalidState
  | malformed => .serialization
  | unreadable => .io
  | overflow => .crash

end Error

end WormBattle
