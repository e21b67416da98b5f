import WormBattle.Program.Basic
import WormBattle.Error

/-!
# Well-formedness

A program is **well-formed** when every expression has the kind that its place asks for and no loop
over entities holds an action. `typeOf` finds the kind of an expression or its first defect, from
the inside out and from left to right.
-/

namespace WormBattle

variable {α : Type}

/-- The kind of the operands of an operator; comparisons for equality take any kind, that of their
left operand. -/
def BinaryOp.operandType (op : BinaryOp) (left : ValueType) : ValueType :=
  if op.isArithmetic || op.isOrdering then .double else if op.isLogical then .bool else left

/-- The kind of the result of an operator. -/
def BinaryOp.resultType (op : BinaryOp) : ValueType :=
  if op.isArithmetic then .double else .bool

/-- The kind of the operand of an operator, which is also that of its result. -/
def UnaryOp.type : UnaryOp → ValueType
  | not => .bool
  | _ => .double

/-- The kind `found` where `expected` is asked for. -/
def checkType (role : Role) (expected found : ValueType) : Except Defect Unit :=
  if found = expected then .ok () else .error (.wrongType role expected found)

namespace Expression

/-- The kind of an expression. -/
def typeOf (globals : Globals α) : Expression α → Except Defect ValueType
  | literal value => .ok value.type
  | selfRef => .ok .entity
  | global name =>
    match globals.type? name with
    | some type => .ok type
    | none => .error (.unboundVariable name)
  | unary op operand => do
    checkType (.operand op) op.type (← operand.typeOf globals)
    return op.type
  | binary op lhs rhs => do
    let left ← lhs.typeOf globals
    let right ← rhs.typeOf globals
    let expected := op.operandType left
    if left = expected ∧ right = expected then return op.resultType
    throw (.operands op expected left right)
  | inspect _ target => do
    checkType .inspected .entity (← target.typeOf globals)
    return .double
  | sameTeam target | isWorm target | isFood target => do
    checkType .tested .entity (← target.typeOf globals)
    return .bool
  | search angle => do
    checkType .searchAngle .double (← angle.typeOf globals)
    return .entity

/-- The kind of an expression has to be the one that its place asks for. -/
def check (globals : Globals α) (role : Role) (expected : ValueType) (e : Expression α) :
    Except Defect Unit := do
  checkType role expected (← e.typeOf globals)

end Expression

namespace Statement

mutual

/-- The first defect of a statement. -/
def check (globals : Globals α) : Statement α → Except Defect Unit
  | turn angle => angle.check globals .turnAngle .double
  | fire yieldPercent => yieldPercent.check globals .fireYield .double
  | move | jump | toggleWeapon | skip => .ok ()
  | assign name value =>
    match globals.type? name with
    | some type => value.check globals (.assigned name) type
    | none => .error (.undeclaredAssignment name)
  | print value => do
    let _ ← value.typeOf globals
  | ifElse condition then_ otherwise => do
    condition.check globals .ifCondition .bool
    then_.check globals
    otherwise.check globals
  | whileLoop condition body => do
    condition.check globals .whileCondition .bool
    body.check globals
  | forEach _ name body =>
    match globals.type? name with
    | some .entity => if body.containsAction then .error .actionInLoop else body.check globals
    | some type => .error (.loopVariableType name type)
    | none => .error (.undeclaredLoopVariable name)
  | sequence statements => checkAll globals statements

/-- The first defect of some statements. -/
def checkAll (globals : Globals α) : List (Statement α) → Except Defect Unit
  | [] => .ok ()
  | s :: rest => do
    s.check globals
    checkAll globals rest

end

end Statement

namespace Program

/-- The first defect of a program. -/
def check (program : Program α) : Except Defect Unit :=
  program.root.check program.globals

/-- Whether a program has no defect. -/
def isWellFormed (program : Program α) : Bool :=
  match program.check with
  | .ok _ => true
  | .error _ => false

/-- A program has to be well-formed. -/
def validate (program : Program α) : Except (Error α) Unit :=
  program.check.mapError .illFormed

end Program

end WormBattle
