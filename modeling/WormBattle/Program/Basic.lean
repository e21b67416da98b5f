import WormBattle.Program.Globals

/-!
# Programs

A statement with a table of global variables. The value that a variable starts with also fixes its
kind for good.
-/

namespace WormBattle

/-- A program of the worm language. -/
structure Program (α : Type) where
  /-- What to do. -/
  root : Statement α
  /-- The global variables with their initial values. -/
  globals : Globals α

namespace Program

variable {α : Type}

/-- A program without variables. -/
def ofStatement (root : Statement α) : Program α :=
  ⟨root, .empty⟩

/-- The program with one more variable, or with another initial value of one. -/
def declare (program : Program α) (name : String) (initial : Value α) : Program α :=
  { program with globals := program.globals.insert name initial }

/-- The kind of a variable. -/
def declaredType (program : Program α) (name : String) : Option ValueType :=
  program.globals.type? name

end Program

end WormBattle
