import WormBattle.Config
import WormBattle.Program.Exec
import WormBattle.Program.Typing

/-!
# Program instances

An instance is a program in use: bound to at most one worm, with values of its own for the global
variables and a cursor at which the next run goes on. Its `Phase` tells whether the next run begins
or resumes, or whether a run has failed, after which the instance never runs again.
-/

namespace WormBattle

/-- Where an instance stands between two runs. -/
inductive Phase where
  /-- The next run begins at the root. -/
  | ready
  /-- The next run goes on at the cursor. -/
  | suspended
  /-- There is no next run. -/
  | faulted
  deriving Repr, DecidableEq

/-- The written name of a phase. -/
def Phase.name : Phase → String
  | ready => "ready"
  | suspended => "suspended"
  | faulted => "faulted"

/-- How a run ends, unless it fails. -/
inductive Outcome where
  /-- The program is done. -/
  | completed
  /-- The run stopped early. -/
  | suspended (reason : SuspendReason)
  /-- The worm has left the world. -/
  | wormDied
  deriving Repr, DecidableEq

/-- A program in use. -/
structure ProgramInstance (α : Type) where
  /-- The program. -/
  program : Program α
  /-- The present values of the global variables. -/
  globals : Globals α
  /-- The worm that runs the program. -/
  worm : Option EntityId
  /-- The budget of a run. -/
  budget : Nat
  /-- Whether onlookers are told of the instance's effects. -/
  observed : Bool
  /-- Where the next run goes on. -/
  cursor : List Frame
  /-- Whether the next run begins, goes on or is refused. -/
  phase : Phase
  /-- Whether the program is well-formed. -/
  wellFormed : Bool

/-- What instances of programs have in common. -/
structure Runtime where
  /-- The budget of a run. -/
  budget : Nat
  /-- Whether onlookers are told of what programs do. -/
  observed : Bool := true
  deriving Repr, DecidableEq

/-- The runtime of a configuration, with onlookers. -/
def Runtime.ofConfig (config : ProgramConfig) : Runtime :=
  { budget := config.maxStatementsPerRun }

/-- The end of a run: how it ended, the instance and the world after it, and what was done. -/
structure Run (α σ : Type) where
  /-- How the run ended, or why it failed or was refused. -/
  result : Except (Error α) Outcome
  /-- The instance after the run. -/
  instanceAfter : ProgramInstance α
  /-- The world after the run. -/
  stateAfter : σ
  /-- What was done, in order. -/
  effects : List (Effect α)

namespace ProgramInstance

variable {α σ : Type}

/-- An instance of a program that is bound to no worm. -/
def of (program : Program α) (budget : Nat) (observed : Bool := true) : ProgramInstance α :=
  { program
    globals := program.globals
    worm := none
    budget
    observed
    cursor := []
    phase := .ready
    wellFormed := program.isWellFormed }

/-- An instance of a program that runs as all of a runtime do. -/
def ofRuntime (runtime : Runtime) (program : Program α) : ProgramInstance α :=
  .of program runtime.budget runtime.observed

/-- An unbound instance of the same program that has not run yet. -/
def freshCopy (i : ProgramInstance α) : ProgramInstance α :=
  { i with globals := i.program.globals, worm := none, cursor := [], phase := .ready }

/-- The instance bound to a worm, whatever it was bound to before. -/
def bind (i : ProgramInstance α) (worm : EntityId) : ProgramInstance α :=
  { i with worm := some worm }

variable [Scalar α] [Environment α σ]

/-- The worm for which an instance can run in a world. -/
def readyWorm (i : ProgramInstance α) (state : σ) : Except (Error α) EntityId := do
  if !i.wellFormed then throw .cannotRunIllFormed
  if i.phase = .faulted then throw .faulted
  let some worm := i.worm | throw .unbound
  if (Environment.view state).kindOf worm = some .worm then return worm
  throw (.notAWorm worm)

/-- The end of a run that has executed the program. -/
def settle (i : ProgramInstance α) (flow : Flow α) (m : Machine α σ) : Run α σ :=
  let close (result : Except (Error α) Outcome) (cursor : List Frame) (phase : Phase) : Run α σ :=
    { result
      instanceAfter := { i with globals := m.globals, cursor, phase }
      stateAfter := m.state
      effects := m.trace.reverse }
  match flow with
  | .done => close (.ok .completed) [] .ready
  | .suspended reason cursor => close (.ok (.suspended reason)) cursor .suspended
  | .wormDied => close (.ok .wormDied) [] .ready
  | .failed e => close (.error e) [] .faulted

/-- Run the program from its cursor with a budget. A refused run changes nothing. -/
def runWith (i : ProgramInstance α) (budget : Nat) (state : σ) : Run α σ :=
  match i.readyWorm state with
  | .error e => { result := .error e, instanceAfter := i, stateAfter := state, effects := [] }
  | .ok worm =>
    let (flow, m) := i.program.root.exec i.cursor { worm, state, globals := i.globals, budget }
    i.settle flow m

/-- Run the program from its cursor with the instance's own budget. -/
def run (i : ProgramInstance α) (state : σ) : Run α σ :=
  i.runWith i.budget state

end ProgramInstance

end WormBattle
