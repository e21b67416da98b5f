import WormBattle.Program.Effect
import WormBattle.Program.Eval

/-!
# Execution of statements

A run executes statements until they are done, until the **budget** of statements is spent, until
the worm lacks the points for its next action, or until the worm dies. A run that stops early leaves
a **cursor**: one `Frame` for each compound statement on the path from the root to the statement
where it stopped. Given the cursor, execution goes on there; with the empty cursor it begins.

Each of the following takes one unit of the budget: a statement that is neither compound nor an
action, the condition of a branch, each test of a loop, each entity that a loop over entities starts
on, and each action that is performed, refused or cannot be planned. A loop is thus bounded by the
budget that it starts with, and a loop over entities by the entities that it found in the beginning,
so that every run ends.
-/

namespace WormBattle

open Scalar

/-- How far a compound statement has got. -/
inductive Frame where
  /-- In the statement of that number of a sequence. -/
  | sequence (index : Nat)
  /-- In one of the two branches. -/
  | ifElse (thenBranch : Bool)
  /-- Before the test of a loop, or in its body. -/
  | whileLoop (inBody : Bool)
  /-- On the first of the entities that are left to a loop: before it starts on the entity, or in
  its body. -/
  | forEach (items : List EntityId) (inBody : Bool)
  deriving Repr, DecidableEq

/-- Why a run stopped before its end. -/
inductive SuspendReason where
  /-- The worm has fewer action points than its next action costs. -/
  | actionPoints (needed available : Nat)
  /-- The budget is spent. -/
  | budget
  deriving Repr, DecidableEq

/-- How the execution of a statement ends. -/
inductive Flow (α : Type) where
  /-- The statement is done. -/
  | done
  /-- Execution stopped at a cursor of the statement. -/
  | suspended (reason : SuspendReason) (cursor : List Frame)
  /-- The worm has left the world. -/
  | wormDied
  /-- The statement failed. -/
  | failed (e : Error α)
  deriving Repr, DecidableEq

/-- What a run works on. -/
structure Machine (α σ : Type) where
  /-- The worm that runs the program. -/
  worm : EntityId
  /-- The world that the worm is in. -/
  state : σ
  /-- The global variables. -/
  globals : Globals α
  /-- The units that are left. -/
  budget : Nat
  /-- What was done so far, the last first. -/
  trace : List (Effect α) := []

namespace Machine

variable {α σ : Type} [Scalar α] [Environment α σ]

/-- The machine with one unit less, if there is one left. -/
def spend? (m : Machine α σ) : Option (Machine α σ) :=
  match m.budget with
  | 0 => none
  | n + 1 => some { m with budget := n }

/-- The machine after an effect. -/
def note (m : Machine α σ) (effect : Effect α) : Machine α σ :=
  { m with trace := effect :: m.trace }

/-- The machine after a variable has got a value. -/
def setGlobal (m : Machine α σ) (name : String) (value : Value α) : Machine α σ :=
  { m with globals := m.globals.insert name value }.note (.assigned name value)

/-- What an entity of the machine's world is. -/
def kindOf (m : Machine α σ) (id : EntityId) : Option EntityKind :=
  (Environment.view m.state).kindOf id

/-- The value of an expression. -/
def eval (m : Machine α σ) (e : Expression α) : Except (Error α) (Value α) :=
  e.eval ⟨m.globals, some m.worm, some (Environment.view m.state)⟩

/-- The number that an expression has for value. -/
def evalDouble (m : Machine α σ) (e : Expression α) : Except (Error α) α := do
  (← m.eval e).toDouble

/-- The truth value that an expression has for value. -/
def evalBool (m : Machine α σ) (e : Expression α) : Except (Error α) Bool := do
  (← m.eval e).toBool

/-- Go on with one unit less; without a unit, stop before the statement. -/
def charge (m : Machine α σ) (go : Machine α σ → Flow α × Machine α σ) : Flow α × Machine α σ :=
  match m.spend? with
  | some m => go m
  | none => (.suspended .budget [], m)

/-- Go on with a value, or fail. -/
def withValue {β : Type} (m : Machine α σ) (value : Except (Error α) β)
    (go : β → Flow α × Machine α σ) : Flow α × Machine α σ :=
  match value with
  | .ok v => go v
  | .error e => (.failed e, m)

/-! ### Statements without parts -/

/-- The value that a variable takes: the variable has to be there and of the value's kind. -/
def checkAssignment (m : Machine α σ) (name : String) (value : Value α) :
    Except (Error α) Unit :=
  match m.globals.get? name with
  | none => .error (.unboundVariable name)
  | some old =>
    if old.type = value.type then .ok () else .error (.assignmentType value.type name old.type)

/-- Assign the value of an expression to a variable. -/
def assign (m : Machine α σ) (name : String) (e : Expression α) : Flow α × Machine α σ :=
  m.charge fun m =>
    m.withValue (m.eval e) fun value =>
      m.withValue (m.checkAssignment name value) fun _ => (.done, m.setGlobal name value)

/-- Print the value of an expression. -/
def print (m : Machine α σ) (e : Expression α) : Flow α × Machine α σ :=
  m.charge fun m => m.withValue (m.eval e) fun value => (.done, m.note (.printed value))

/-- Do an action. One that cannot be planned is passed over, one that the worm cannot pay for stops
the run before it, and only one that is asked for can be done or refused. -/
def perform (m : Machine α σ) (action : Action α) : Flow α × Machine α σ :=
  match Environment.actionCost m.state m.worm action with
  | .error _ => m.charge fun m => (.done, m)
  | .ok cost =>
    m.withValue (Environment.actionPoints m.state m.worm) fun available =>
      -- The points are looked at before the budget: waiting for them costs nothing.
      if available < cost then (.suspended (.actionPoints cost available) [], m)
      else
        m.charge fun m =>
          let (result, state) := Environment.perform m.state m.worm action
          let m := { m with state }.note (.asked m.worm action)
          match result with
          | .error _ => (.done, m)
          | .ok _ =>
            let m := m.note (.done m.worm action)
            (if m.kindOf m.worm = some .worm then .done else .wormDied, m)

/-- The yield of a shot as a number of points, if it is in their range. -/
def yield? (x : α) : Option Nat :=
  if !isFinite x || x < 0.0 || (maxPoints : α) < x then none else some (toPoints (round x))

/-- Fire with the yield that is the value of an expression. A yield that is out of range cannot be
planned. -/
def fire (m : Machine α σ) (e : Expression α) : Flow α × Machine α σ :=
  m.withValue (m.evalDouble e) fun x =>
    match yield? x with
    | some yieldPercent => m.perform (.fire yieldPercent)
    | none => m.charge fun m => (.done, m)

end Machine

/-! ### Loops -/

section Loops

variable {α σ : Type} [Scalar α] [Environment α σ]

/-- Test and run the body of a loop for as long as the condition holds. The number bounds the
tests: each takes a unit, so the machine's budget is a bound, and at zero nothing can be tested any
more. -/
def repeatWhile (condition : Expression α) (body : Machine α σ → Flow α × Machine α σ) :
    Nat → Machine α σ → Flow α × Machine α σ
  | 0, m => (.suspended .budget [.whileLoop false], m)
  | bound + 1, m =>
    match m.spend? with
    | none => (.suspended .budget [.whileLoop false], m)
    | some m =>
      m.withValue (m.evalBool condition) fun holds =>
        if !holds then (.done, m)
        else
          match body m with
          | (.done, m) => repeatWhile condition body bound m
          | (.suspended reason cursor, m) => (.suspended reason (.whileLoop true :: cursor), m)
          | stopped => stopped

/-- Finish the body of a loop that has been entered, then go on with the loop. -/
def resumeWhile (condition : Expression α) (body : List Frame → Machine α σ → Flow α × Machine α σ)
    (cursor : List Frame) (m : Machine α σ) : Flow α × Machine α σ :=
  match body cursor m with
  | (.done, m) => repeatWhile condition (body []) m.budget m
  | (.suspended reason cursor, m) => (.suspended reason (.whileLoop true :: cursor), m)
  | stopped => stopped

/-- Run the body of a loop once for each entity that is still in the world when its turn comes; the
body may have been entered for the first one. An entity that has left takes what is left of its body
with it. -/
def overItems (name : String) (body : List Frame → Machine α σ → Flow α × Machine α σ) :
    List EntityId → Bool → List Frame → Machine α σ → Flow α × Machine α σ
  | [], _, _, m => (.done, m)
  | item :: rest, inBody, cursor, m =>
    let run (cursor : List Frame) (m : Machine α σ) : Flow α × Machine α σ :=
      match body cursor m with
      | (.done, m) => overItems name body rest false [] m
      | (.suspended reason cursor, m) =>
        (.suspended reason (.forEach (item :: rest) true :: cursor), m)
      | stopped => stopped
    if (m.kindOf item).isNone then overItems name body rest false [] m
    else if inBody then run cursor m
    else
      match m.spend? with
      | none => (.suspended .budget [.forEach (item :: rest) false], m)
      | some m => run [] (m.setGlobal name (.entity (some item)))

end Loops

/-! ### Statements with parts -/

namespace Statement

variable {α σ : Type}

/-- The end of a branch is that of the whole statement, but a run that stops remembers the
branch. -/
def inBranch (thenBranch : Bool) : Flow α × Machine α σ → Flow α × Machine α σ
  | (.suspended reason cursor, m) => (.suspended reason (.ifElse thenBranch :: cursor), m)
  | ended => ended

variable [Scalar α] [Environment α σ]

mutual

/-- Execute a statement from a cursor. -/
def exec : Statement α → List Frame → Machine α σ → Flow α × Machine α σ
  | skip, _, m => m.charge fun m => (.done, m)
  | assign name value, _, m => m.assign name value
  | print value, _, m => m.print value
  | turn angle, _, m => m.withValue (m.evalDouble angle) fun x => m.perform (.turn x)
  | move, _, m => m.perform .move
  | jump, _, m => m.perform .jump
  | toggleWeapon, _, m => m.perform .toggleWeapon
  | fire yieldPercent, _, m => m.fire yieldPercent
  | ifElse condition then_ otherwise, cursor, m =>
    match cursor with
    | [] =>
      m.charge fun m =>
        m.withValue (m.evalBool condition) fun holds =>
          if holds then inBranch true (then_.exec [] m) else inBranch false (otherwise.exec [] m)
    -- A branch that has been taken is kept, whatever the condition would be by now.
    | .ifElse true :: cursor => inBranch true (then_.exec cursor m)
    | .ifElse false :: cursor => inBranch false (otherwise.exec cursor m)
    | _ => (.failed .cursorMismatch, m)
  | whileLoop condition body, cursor, m =>
    match cursor with
    | [] | .whileLoop false :: _ => repeatWhile condition (body.exec []) m.budget m
    | .whileLoop true :: cursor => resumeWhile condition body.exec cursor m
    | _ => (.failed .cursorMismatch, m)
  | forEach filter name body, cursor, m =>
    match cursor with
    -- The entities are those that are there now. Those that come later are not gone through.
    | [] => overItems name body.exec ((Environment.view m.state).entities filter) false [] m
    | .forEach items inBody :: cursor => overItems name body.exec items inBody cursor m
    | _ => (.failed .cursorMismatch, m)
  | sequence statements, cursor, m =>
    match cursor with
    | [] => execFrom statements 0 0 [] m
    | .sequence index :: cursor => execFrom statements index 0 cursor m
    | _ => (.failed .cursorMismatch, m)

/-- Execute some statements of a sequence, passing over the first `skipped`, with the next one from
a cursor. The number `index` of the first one is written into the cursor of a run that stops. -/
def execFrom : List (Statement α) → Nat → Nat → List Frame → Machine α σ → Flow α × Machine α σ
  | [], _, _, _, m => (.done, m)
  | _ :: rest, skipped + 1, index, cursor, m => execFrom rest skipped (index + 1) cursor m
  | s :: rest, 0, index, cursor, m =>
    match s.exec cursor m with
    | (.done, m) => execFrom rest 0 (index + 1) [] m
    | (.suspended reason cursor, m) => (.suspended reason (.sequence index :: cursor), m)
    | stopped => stopped

end

end Statement

end WormBattle
