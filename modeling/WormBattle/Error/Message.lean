import WormBattle.Decimal.Text
import WormBattle.Physics.Sampling

/-!
# The wording of refusals

The text of every refusal, and of the values that occur in one. Scalars are written as shortest
decimals, coordinates of positions with five places.
-/

namespace WormBattle

/-- An entity is named by its number. -/
def EntityId.text (id : EntityId) : String :=
  s!"entity#{id.value}"

/-- A world is named by its number. -/
def WorldId.text (id : WorldId) : String :=
  s!"#{id.value}"

/-- A position with five places. -/
def Position.text (p : Position Float) : String :=
  s!"({Double.fixedText 5 p.x}, {Double.fixedText 5 p.y})"

/-- A value as a program prints it. -/
def Value.text : Value Float → String
  | .double x => Double.text x
  | .bool b => if b then "true" else "false"
  | .entity (some id) => id.text
  | .entity none => "null"

/-- The name of an operator in messages. -/
def UnaryOp.text : UnaryOp → String
  | not => "Not" | negate => "Negate" | sqrt => "Sqrt" | sin => "Sin" | cos => "Cos"

/-- The name of an operator in messages. -/
def BinaryOp.text : BinaryOp → String
  | add => "Add" | sub => "Sub" | mul => "Mul" | div => "Div"
  | lt => "Lt" | le => "Le" | gt => "Gt" | ge => "Ge"
  | eq => "Eq" | ne => "Ne"
  | and => "And" | or => "Or"

/-- The name of a property in messages. -/
def Property.text : Property → String
  | x => "X" | y => "Y" | radius => "Radius" | direction => "Direction"
  | actionPoints => "ActionPoints" | maxActionPoints => "MaxActionPoints"
  | hitPoints => "HitPoints" | maxHitPoints => "MaxHitPoints"

/-- The name of a place that asks for a value. -/
def Role.text : Role → String
  | turnAngle => "turn angle"
  | fireYield => "fire yield"
  | assigned name => s!"value assigned to '{name}'"
  | ifCondition => "if condition"
  | whileCondition => "while condition"
  | operand op => s!"operand of {op.text}"
  | inspected => "inspected target"
  | tested => "entity test target"
  | searchAngle => "search angle"

/-- What is wrong with a program. -/
def Defect.text : Defect → String
  | wrongType role expected found =>
    s!"{role.text} must be {expected.name}, found {found.name}"
  | operands op expected left right =>
    s!"operands of {op.text} must both be {expected.name}, found {left.name} and {right.name}"
  | unboundVariable name => s!"unbound variable '{name}'"
  | undeclaredAssignment name => s!"assignment to undeclared variable '{name}'"
  | loopVariableType name declared => s!"foreach variable '{name}' is declared {declared.name}"
  | undeclaredLoopVariable name => s!"foreach variable '{name}' is not declared"
  | actionInLoop => "action statement inside a foreach body"

namespace Error

open Double (text)

/-- The cause of a refusal in words. -/
def cause : Error Float → String
  | illegalTime time => s!"illegal time {text time}"
  | illegalTimeStep step => s!"illegal time step {text step}"
  | illegalStep step => s!"illegal step {text step}"
  | illegalSpan span => s!"illegal span {text span}"
  | tooManySamples step span =>
    s!"step {text step} needs more than {maxSamples} samples to cover {text span}"
  | settingNotPositive setting value => s!"{setting} must be positive, got {text value}"
  | illegalInflation value =>
    s!"terrain.contact_inflation must be at least 1, got {text value}"
  | illegalDimensions width height => s!"illegal world dimensions {text width} x {text height}"
  | illegalPosition position => s!"illegal position {position.text}"
  | illegalRadius radius => s!"illegal radius {text radius}"
  | radiusBelowMinimum radius minimum =>
    s!"illegal radius {text radius} (minimum {text minimum})"
  | illegalDirection direction => s!"illegal direction {text direction}"
  | illegalTurn angle => s!"illegal turn angle {text angle}"
  | illegalYield yieldPercent maximum => s!"illegal yield {yieldPercent} (maximum {maximum})"
  | illegalWormName name => s!"illegal worm name '{name}'"
  | illegalTeamName name => s!"illegal team name '{name}'"
  | teamExists name => s!"team '{name}' already exists"
  | noSuchTeam name => s!"no team named '{name}'"
  | illFormed defect => s!"program is not well-formed: {defect.text}"
  | kindMismatch expected found => s!"expected a {expected.name} operand, found {found.name}"
  | unboundVariable name => s!"unbound variable '{name}'"
  | incomparable left right => s!"cannot compare {left.name} with {right.name}"
  | assignmentType value name declared =>
    s!"cannot assign a {value.name} to '{name}' of type {declared.name}"
  | inspectNull => "cannot inspect the null entity"
  | notInThisWorld id => s!"{id.text} is not in this world"
  | foodLacks property => s!"food has no {property.text}"
  | needsWorld => "expression needs a world to evaluate"
  | unbound => "program is not bound to a worm"
  | notPlaced id => s!"{id.text} is not in a world"
  | cursorMismatch => "execution cursor does not match the program"
  | cannotRunIllFormed => "program is not well-formed and cannot run"
  | faulted => "program has faulted"
  | notAWorm id => s!"{id.text} is not a worm in this world"
  | notFood id => s!"{id.text} is not food in this world"
  | noProjectile => "no projectile in this world"
  | noProjectileInFlight => "no projectile in flight"
  | alreadyHere id => s!"{id.text} is already in this world"
  | inAnotherWorld id => s!"{id.text} belongs to another world"
  | entityTerminated id => s!"{id.text} is terminated"
  | stillListed id => s!"{id.text} is still listed by its world"
  | alreadyTerminated id => s!"{id.text} is already terminated"
  | worldTerminated world => s!"world {world.text} is terminated"
  | foreignTeam name => s!"team '{name}' is not part of this world"
  | tooManyTeams maximum => s!"a world holds at most {maximum} teams"
  | noPlace radius attempts => s!"no place for radius {text radius} after {attempts} attempts"
  | startTerminated => "cannot start a terminated world"
  | alreadyStarted => "world has already started"
  | notInProgress => "game is not in progress"
  | noTurn => "no worm has the turn"
  | shortOfPoints name cost available =>
    s!"{name} needs {cost} action points but has {available}"
  | shortOfPointsToFire name cost available =>
    s!"{name} needs {cost} action points to fire but has {available}"
  | nowhereToMove id => s!"{id.text} has nowhere to move"
  | cannotFall id => s!"{id.text} cannot fall"
  | neverLanded id => s!"{id.text} never stopped falling"
  | cannotJump id => s!"{id.text} cannot jump from here"
  | jumpNeverEnded => "jump never ended"
  | firesInsideTerrain id => s!"{id.text} cannot fire from inside terrain"
  | flightNeverEnded => "projectile flight never ended"
  | malformed => ""
  | unreadable => ""
  | overflow => "attempt to add with overflow"

/-- The whole message: the kind of the refusal, then its cause. -/
def message (e : Error Float) : String :=
  match e.kind with
  | .invalidArgument => "Invalid argument: " ++ e.cause
  | .invalidState => "Invalid state: " ++ e.cause
  | .serialization => "Serialization error"
  | .io => "IO error"
  | .crash => e.cause

end Error

end WormBattle
