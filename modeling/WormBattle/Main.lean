import WormBattle.CommandLine

/-!
# The program

Reads the files that a command line names, plays the battle and prints how it ended.
-/

namespace WormBattle

/-- What a file holds, if it can be read. -/
def readFile? (path : String) : IO (Option String) := do
  try
    return some (← IO.FS.readFile path)
  catch _ =>
    return none

/-- The files that a battle needs, as far as they can be read. -/
def readFiles (options : Options) : IO FileReader := do
  let text ← readFile? options.scenario
  let first : FileReader := fun path => if path = options.scenario then text else none
  let paths := match options.load first with
    | .ok s => options.programPaths s
    | .error _ => []
  let texts ← paths.mapM fun path => return (path, ← readFile? path)
  return fun path =>
    if path = options.scenario then text else (texts.lookup path).join

namespace Failure

/-- The lines that report what went wrong. -/
def lines : Failure → List String
  | crashed message => [message]
  | reported [] => []
  | reported [outermost] => ["Error: " ++ outermost]
  | reported [outermost, cause] => ["Error: " ++ outermost, "", "Caused by:", "    " ++ cause]
  | reported (outermost :: causes) =>
    ["Error: " ++ outermost, "", "Caused by:"] ++
      causes.mapIdx fun i cause => s!"    {i}: {cause}"

/-- The exit code of the program. -/
def exitCode : Failure → UInt32
  | crashed _ => 101
  | reported _ => 1

end Failure

end WormBattle

open WormBattle in
/-- Play the battle of a command line. -/
def main (arguments : List String) : IO UInt32 := do
  match Invocation.ofArguments arguments with
  | .help =>
    IO.print Invocation.usage
    return 0
  | .refused =>
    IO.eprint Invocation.usage
    return 2
  | .play options =>
    match options.run (← readFiles options) with
    | .ok summary =>
      IO.println summary.toJson.pretty
      return 0
    | .error failure =>
      for line in failure.lines do
        IO.eprintln line
      return failure.exitCode
