import WormBattle.Physics.Ray
import WormBattle.Program.Globals
import WormBattle.Program.View

/-!
# Evaluation of expressions

The value of an expression in a **scope**: the global variables, the running worm and the view of
the world, of which the last two may be missing. Operands are evaluated from left to right, the
second operand of a logical operator only if the first does not decide.
-/

namespace WormBattle

variable {α : Type} [Scalar α]

namespace Value

/-- The number that a value is. -/
def toDouble : Value α → Except (Error α) α
  | double x => .ok x
  | v => .error (.kindMismatch .double v.type)

/-- The truth value that a value is. -/
def toBool : Value α → Except (Error α) Bool
  | bool b => .ok b
  | v => .error (.kindMismatch .bool v.type)

/-- The reference that a value is. -/
def toEntity : Value α → Except (Error α) (Option EntityId)
  | entity id => .ok id
  | v => .error (.kindMismatch .entity v.type)

/-- Equality as programs see it: that of numbers is the scalars' own. -/
def same : Value α → Value α → Bool
  | double x, double y => x == y
  | bool b, bool c => b == c
  | entity i, entity j => i == j
  | _, _ => false

end Value

namespace UnaryOp

/-- The operator applied to a value. -/
def apply (op : UnaryOp) (v : Value α) : Except (Error α) (Value α) :=
  match op with
  | not => return .bool !(← v.toBool)
  | negate => return .double (-(← v.toDouble))
  | sqrt => return .double (Scalar.sqrt (← v.toDouble))
  | sin => return .double (Scalar.sin (← v.toDouble))
  | cos => return .double (Scalar.cos (← v.toDouble))

end UnaryOp

namespace BinaryOp

/-- The arithmetic and ordering operators on two numbers; the others do not take numbers. -/
def onDoubles (op : BinaryOp) (x y : α) : Value α :=
  match op with
  | add => .double (x + y)
  | sub => .double (x - y)
  | mul => .double (x * y)
  | div => .double (x / y)
  | lt => .bool (x < y)
  | le => .bool (x ≤ y)
  | gt => .bool (y < x)
  | ge => .bool (y ≤ x)
  | eq | ne | and | or => .bool false

/-- The operator between a value and what may still have to be evaluated. -/
def apply (op : BinaryOp) (left : Value α) (right : Except (Error α) (Value α)) :
    Except (Error α) (Value α) :=
  match op with
  | and => do
    if ← left.toBool then return .bool (← (← right).toBool) else return .bool false
  | or => do
    if ← left.toBool then return .bool true else return .bool (← (← right).toBool)
  | eq | ne => do
    let right ← right
    if left.type = right.type then return .bool (left.same right == (op == .eq))
    throw (.incomparable left.type right.type)
  | add | sub | mul | div | lt | le | gt | ge => do
    let x ← left.toDouble
    let y ← (← right).toDouble
    return op.onDoubles x y

end BinaryOp

/-- What an expression can see. -/
structure Scope (α : Type) where
  /-- The global variables. -/
  globals : Globals α
  /-- The running worm. -/
  worm : Option EntityId := none
  /-- The world. -/
  view : Option (View α) := none

namespace Scope

/-- The view of the world, which has to be there. -/
def requireView (scope : Scope α) : Except (Error α) (View α) :=
  match scope.view with
  | some view => .ok view
  | none => .error .needsWorld

/-- The running worm, which has to be there. -/
def requireWorm (scope : Scope α) : Except (Error α) EntityId :=
  match scope.worm with
  | some worm => .ok worm
  | none => .error .unbound

end Scope

namespace View

/-- The nearer of the nearest entity so far and an entity that the ray may hit. Of two entities at
one distance the earlier stays. -/
def nearer (view : View α) (origin : Position α) (angle : α) (best : Option (α × EntityId))
    (id : EntityId) : Option (α × EntityId) :=
  match view.positionOf id, view.radiusOf id with
  | some centre, some radius =>
    match Ray.hit? origin angle centre radius, best with
    | some distance, some (least, found) =>
      if distance < least then some (distance, id) else some (least, found)
    | some distance, none => some (distance, id)
    | none, best => best
  | _, _ => best

/-- The nearest worm or food, other than the searching worm, that is hit by the ray that leaves the
worm at its direction plus an angle. -/
def search (view : View α) (me : EntityId) (offset : α) : Except (Error α) (Option EntityId) := do
  let some origin := view.positionOf me | throw (.notPlaced me)
  let angle := (← view.inspect me .direction) + offset
  let others := (view.entities .any).filter (· ≠ me)
  return (others.foldl (view.nearer origin angle) none).map Prod.snd

end View

/-- Whether a reference is to an entity of a kind. -/
def Scope.isKind (scope : Scope α) (kind : EntityKind) : Option EntityId → Except (Error α) Bool
  | none => return false
  | some id => return (← scope.requireView).kindOf id == some kind

/-- Whether a reference is to a worm of the running worm's team. -/
def Scope.isTeammate (scope : Scope α) : Option EntityId → Except (Error α) Bool
  | none => return false
  | some id => do
    let view ← scope.requireView
    let mine := view.teamOf (← scope.requireWorm)
    return mine.isSome && mine == view.teamOf id

namespace Expression

/-- The value of an expression. -/
def eval (scope : Scope α) : Expression α → Except (Error α) (Value α)
  | literal value => .ok value
  | selfRef => do
    return .entity (some (← scope.requireWorm))
  | global name =>
    match scope.globals.get? name with
    | some value => .ok value
    | none => .error (.unboundVariable name)
  | unary op operand => do
    op.apply (← operand.eval scope)
  | binary op lhs rhs => do
    op.apply (← lhs.eval scope) (rhs.eval scope)
  | inspect property target => do
    match ← (← target.eval scope).toEntity with
    | none => throw .inspectNull
    | some id => return .double (← (← scope.requireView).inspect id property)
  | sameTeam target => do
    return .bool (← scope.isTeammate (← (← target.eval scope).toEntity))
  | isWorm target => do
    return .bool (← scope.isKind .worm (← (← target.eval scope).toEntity))
  | isFood target => do
    return .bool (← scope.isKind .food (← (← target.eval scope).toEntity))
  | search angle => do
    let offset ← (← angle.eval scope).toDouble
    let view ← scope.requireView
    return .entity (← view.search (← scope.requireWorm) offset)

end Expression

end WormBattle
