import WormBattle.Identity

/-!
# The worm language

A **program** is a tree of statements over a table of global variables. Expressions compute values
of three disjoint kinds (doubles, truth values, references to entities); statements act, assign,
print and branch. Statements that cost a worm action points are **actions**.
-/

namespace WormBattle

/-- The three kinds of values. -/
inductive ValueType where
  /-- A number. -/
  | double
  /-- A truth value. -/
  | bool
  /-- A reference to an entity. -/
  | entity
  deriving Repr, DecidableEq

/-- The written name of a kind of values. -/
def ValueType.name : ValueType → String
  | double => "double"
  | bool => "bool"
  | entity => "entity"

/-- A value of the language. -/
inductive Value (α : Type) where
  /-- A number. -/
  | double (x : α)
  /-- A truth value. -/
  | bool (b : Bool)
  /-- A reference to an entity, which need not be in any world; `none` is the null reference. -/
  | entity (id : Option EntityId)
  deriving Repr, DecidableEq

/-- The kind of a value. -/
def Value.type {α : Type} : Value α → ValueType
  | .double _ => .double
  | .bool _ => .bool
  | .entity _ => .entity

/-- Operators with one operand. -/
inductive UnaryOp where
  | not | negate | sqrt | sin | cos
  deriving Repr, DecidableEq

/-- Operators with two operands. -/
inductive BinaryOp where
  | add | sub | mul | div
  | lt | le | gt | ge
  | eq | ne
  | and | or
  deriving Repr, DecidableEq

namespace BinaryOp

/-- The operators that compute a number. -/
def isArithmetic : BinaryOp → Bool
  | add | sub | mul | div => true
  | _ => false

/-- The operators that order two numbers. -/
def isOrdering : BinaryOp → Bool
  | lt | le | gt | ge => true
  | _ => false

/-- The operators that compare two values of any one kind. -/
def isEquality : BinaryOp → Bool
  | eq | ne => true
  | _ => false

/-- The operators on truth values. -/
def isLogical : BinaryOp → Bool
  | and | or => true
  | _ => false

end BinaryOp

/-- What a program can read off an entity. -/
inductive Property where
  | x | y | radius | direction
  | actionPoints | maxActionPoints | hitPoints | maxHitPoints
  deriving Repr, DecidableEq

/-- The properties that only worms have points for. -/
def Property.isPoints : Property → Bool
  | actionPoints | maxActionPoints | hitPoints | maxHitPoints => true
  | _ => false

/-- The entities that a loop ranges over. -/
inductive EntityFilter where
  | worm | food | any
  deriving Repr, DecidableEq

/-- Expressions. -/
inductive Expression (α : Type) where
  /-- A fixed value. -/
  | literal (value : Value α)
  /-- The worm that runs the program. -/
  | selfRef
  /-- The current value of a global variable. -/
  | global (name : String)
  /-- An operator applied to an operand. -/
  | unary (op : UnaryOp) (operand : Expression α)
  /-- An operator between two operands. -/
  | binary (op : BinaryOp) (lhs rhs : Expression α)
  /-- A property of an entity. -/
  | inspect (property : Property) (target : Expression α)
  /-- Whether an entity is a worm of the running worm's team. -/
  | sameTeam (target : Expression α)
  /-- Whether an entity is a worm. -/
  | isWorm (target : Expression α)
  /-- Whether an entity is food. -/
  | isFood (target : Expression α)
  /-- The nearest worm or food on the ray that leaves the running worm at its direction plus an
  angle. -/
  | search (angle : Expression α)
  deriving Repr, DecidableEq

/-- Statements. -/
inductive Statement (α : Type) where
  /-- Turn by an angle. -/
  | turn (angle : Expression α)
  /-- Move one step. -/
  | move
  /-- Jump. -/
  | jump
  /-- Take up the other weapon. -/
  | toggleWeapon
  /-- Fire the selected weapon. -/
  | fire (yieldPercent : Expression α)
  /-- Do nothing. -/
  | skip
  /-- Give a global variable a new value. -/
  | assign (name : String) (value : Expression α)
  /-- Print a value. -/
  | print (value : Expression α)
  /-- Run one of two statements. -/
  | ifElse (condition : Expression α) (then_ otherwise : Statement α)
  /-- Run a statement for as long as a condition holds. -/
  | whileLoop (condition : Expression α) (body : Statement α)
  /-- Run a statement for each entity of a kind that is in the world when the loop begins. -/
  | forEach (filter : EntityFilter) (name : String) (body : Statement α)
  /-- Run statements one after the other. -/
  | sequence (statements : List (Statement α))
  deriving Repr

namespace Statement

variable {α : Type}

/-- The statements that cost action points. -/
def isAction : Statement α → Bool
  | turn _ | move | jump | toggleWeapon | fire _ => true
  | _ => false

/-- The statements that hold other statements. -/
def isControlFlow : Statement α → Bool
  | ifElse .. | whileLoop .. | forEach .. | sequence .. => true
  | _ => false

/-- The statements directly inside a statement, in the order in which they are written. -/
def children : Statement α → List (Statement α)
  | ifElse _ then_ otherwise => [then_, otherwise]
  | whileLoop _ body | forEach _ _ body => [body]
  | sequence statements => statements
  | _ => []

mutual

/-- Whether an action occurs anywhere in a statement. -/
def containsAction : Statement α → Bool
  | ifElse _ then_ otherwise => then_.containsAction || otherwise.containsAction
  | whileLoop _ body => body.containsAction
  | forEach _ _ body => body.containsAction
  | sequence statements => anyContainsAction statements
  | turn _ | move | jump | toggleWeapon | fire _ => true
  | skip | assign .. | print _ => false

/-- Whether an action occurs anywhere in one of some statements. -/
def anyContainsAction : List (Statement α) → Bool
  | [] => false
  | s :: rest => s.containsAction || anyContainsAction rest

end

mutual

/-- A statement and everything inside it, each before its children. -/
def preorder : Statement α → List (Statement α)
  | ifElse c then_ otherwise => ifElse c then_ otherwise :: (then_.preorder ++ otherwise.preorder)
  | whileLoop c body => whileLoop c body :: body.preorder
  | forEach f v body => forEach f v body :: body.preorder
  | sequence statements => sequence statements :: preorderAll statements
  | leaf => [leaf]

/-- Some statements and everything inside them. -/
def preorderAll : List (Statement α) → List (Statement α)
  | [] => []
  | s :: rest => s.preorder ++ preorderAll rest

end

end Statement

end WormBattle
