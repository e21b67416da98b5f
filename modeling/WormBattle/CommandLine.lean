import WormBattle.CommandLine.Invocation
import WormBattle.Format.Scenario
import WormBattle.Format.Summary

/-!
# The command line

`Options.run` plays the battle that a command line asks for and says what there is to report. What
files hold is found out by a function that the caller supplies.
-/

namespace WormBattle

/-! ### Paths -/

namespace Path

/-- The path of the folder that holds a file: what stands before the last slash. -/
def folder (path : String) : String :=
  match path.toList.reverse.dropWhile (· ≠ '/') with
  | [] => ""
  | ['/'] => "/"
  | _ :: reversed => String.ofList reversed.reverse

/-- A path that starts at a folder, unless it starts at the root. -/
def inFolder (folder path : String) : String :=
  if path.startsWith "/" || folder.isEmpty then path
  else if folder.endsWith "/" then folder ++ path
  else folder ++ "/" ++ path

end Path

/-! ### Playing -/

/-- What a file holds, if it can be read. -/
abbrev FileReader : Type :=
  String → Option String

/-- The text of a file, which has to be readable. -/
def FileReader.text (files : FileReader) (path : String) : Except (Error Float) String :=
  match files path with
  | some text => .ok text
  | none => .error .unreadable

/-- The program in a file, whose path starts at a folder. -/
def FileReader.program (files : FileReader) (folder : String) : ProgramLoader Float :=
  fun path => do
    Program.ofText (← files.text (Path.inFolder folder path))

/-- What went wrong with a battle. -/
inductive Failure where
  /-- Something was refused, which is reported from the outermost cause to the innermost one. -/
  | reported (causes : List String)
  /-- The program broke off. -/
  | crashed (message : String)
  deriving Repr, DecidableEq

/-- A cause with what it went wrong with. A crash is not reported as anything. -/
def Failure.of (outer : List String) (e : Error Float) : Failure :=
  if e.kind = .crash then crashed e.message else reported (outer ++ [e.message])

namespace Options

/-- The scenario of a command line, with the settings that the options replace. -/
def load (options : Options) (files : FileReader) : Except (Error Float) (Scenario Float) := do
  let s ← Scenario.ofText (← files.text options.scenario)
  return { s with
    config := { s.config with seed := options.seed.getD s.config.seed }
    maxTurns := options.maxTurns.getD s.maxTurns }

/-- The paths of the files of programs that a scenario needs. -/
def programPaths (options : Options) (s : Scenario Float) : List String :=
  s.programPaths.map (Path.inFolder (Path.folder options.scenario))

/-- The battle of a command line: how it ended, or what went wrong. -/
def run (options : Options) (files : FileReader) : Except Failure (Summary Float) := do
  let s ← (options.load files).mapError
    (Failure.of ["failed to load scenario " ++ options.scenario])
  let loader := files.program (Path.folder options.scenario)
  let simulation ← (s.build ⟨0⟩ {} (.ofConfig s.config.program) loader).mapError
    (Failure.of ["failed to build the world"])
  (simulation.play s.maxTurns).mapError (Failure.of [])

end Options

end WormBattle
