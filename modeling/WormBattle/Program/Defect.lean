import WormBattle.Program.Syntax

/-!
# Defects of programs

What keeps a program from being well-formed: a type that does not fit, a name that is not declared,
or an action inside a loop over entities.
-/

namespace WormBattle

/-- The places of a program that ask for a value of one kind. -/
inductive Role where
  /-- The angle of a turn. -/
  | turnAngle
  /-- The yield of a shot. -/
  | fireYield
  /-- The value assigned to a global variable. -/
  | assigned (name : String)
  /-- The condition of a branch. -/
  | ifCondition
  /-- The condition of a loop. -/
  | whileCondition
  /-- The operand of an operator. -/
  | operand (op : UnaryOp)
  /-- The entity whose property is read. -/
  | inspected
  /-- The entity that a test asks about. -/
  | tested
  /-- The angle of a search. -/
  | searchAngle
  deriving Repr, DecidableEq

/-- The reasons why a program is not well-formed. -/
inductive Defect where
  /-- A value of one kind stands where another is asked for. -/
  | wrongType (role : Role) (expected found : ValueType)
  /-- The two operands do not both have the kind that the operator takes. -/
  | operands (op : BinaryOp) (expected left right : ValueType)
  /-- An expression reads a variable that is not declared. -/
  | unboundVariable (name : String)
  /-- A statement assigns to a variable that is not declared. -/
  | undeclaredAssignment (name : String)
  /-- The variable of a loop over entities does not hold entities. -/
  | loopVariableType (name : String) (declared : ValueType)
  /-- The variable of a loop over entities is not declared. -/
  | undeclaredLoopVariable (name : String)
  /-- A loop over entities holds an action. -/
  | actionInLoop
  deriving Repr, DecidableEq

end WormBattle
