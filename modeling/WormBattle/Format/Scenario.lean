import WormBattle.Format.Config
import WormBattle.Format.Program
import WormBattle.Json.Reader
import WormBattle.Json.Writer
import WormBattle.Scenario

/-!
# The JSON form of scenarios

A scenario is an object of its parts, of which only the size of the world has to be given. The
program of a worm is the path of a file, as a text, or the form of a program. Scenarios and programs
are also read from texts, and a text that is not of the form is refused as malformed.
-/

namespace WormBattle

open Json (nat double optional object array)

namespace ProgramSource

/-- The form of a source: the path of the file or the program itself. -/
def toJson : ProgramSource Float → Json
  | file path => .string path
  | inline program => program.toJson

/-- The source of a form. The form is looked over first, to find out which of the two it is. -/
def ofJson? : Json → Option (ProgramSource Float)
  | .string path => some (file path)
  | j => if j.isWhole then (Program.ofJson? .enclosed j).map inline else none

end ProgramSource

namespace WormSpec

/-- The form of a worm. -/
def toJson (spec : WormSpec Float) : Json :=
  object [
    ("name", .string spec.name),
    ("x", double spec.x),
    ("y", double spec.y),
    ("direction", double spec.direction),
    ("radius", double spec.radius),
    ("team", optional .string spec.team),
    ("program", optional ProgramSource.toJson spec.program)]

/-- The worm of a form. Its name and its place have to be given. -/
def ofJson? (j : Json) : Option (WormSpec Float) := do
  let fields ← j.record? ["name", "x", "y", "direction", "radius", "team", "program"]
  return {
    name := ← fields.required "name" Json.string?
    x := ← fields.required "x" Json.double?
    y := ← fields.required "y" Json.double?
    direction := ← fields.default "direction" Json.double? 0.0
    radius := ← fields.default "radius" Json.double? 0.5
    team := ← fields.default "team" (Json.optional? Json.string?) none
    program := ← fields.default "program" (Json.optional? ProgramSource.ofJson?) none }

end WormSpec

namespace FoodSpec

/-- The form of a ration. -/
def toJson (spec : FoodSpec Float) : Json :=
  object [("x", double spec.x), ("y", double spec.y)]

/-- The ration of a form. -/
def ofJson? (j : Json) : Option (FoodSpec Float) := do
  let fields ← j.record? ["x", "y"]
  return {
    x := ← fields.required "x" Json.double?
    y := ← fields.required "y" Json.double? }

end FoodSpec

namespace Scenario

/-- The form of a scenario. -/
def toJson (s : Scenario Float) : Json :=
  object [
    ("width", double s.width),
    ("height", double s.height),
    ("map", array (s.map.map .string)),
    ("config", s.config.toJson),
    ("teams", array (s.teams.map .string)),
    ("worms", array (s.worms.map WormSpec.toJson)),
    ("food", array (s.food.map FoodSpec.toJson)),
    ("random_food", nat s.randomFood),
    ("max_turns", nat s.maxTurns)]

/-- The scenario of a form. -/
def ofJson? (j : Json) : Option (Scenario Float) := do
  let fields ← j.record? ["width", "height", "map", "config", "teams", "worms", "food",
    "random_food", "max_turns"]
  return {
    width := ← fields.required "width" Json.double?
    height := ← fields.required "height" Json.double?
    map := ← fields.default "map" (Json.list? Json.string?) []
    config := ← fields.default "config" GameConfig.ofJson? default
    teams := ← fields.default "teams" (Json.list? Json.string?) []
    worms := ← fields.default "worms" (Json.list? WormSpec.ofJson?) []
    food := ← fields.default "food" (Json.list? FoodSpec.ofJson?) []
    randomFood := ← fields.default "random_food" (Json.unsigned? 32) 0
    maxTurns := ← fields.default "max_turns" (Json.unsigned? 64) 100 }

/-- The scenario that a text describes. -/
def ofText (text : String) : Except (Error Float) (Scenario Float) :=
  match Json.ofText? text >>= ofJson? with
  | some s => .ok s
  | none => .error .malformed

end Scenario

namespace Program

/-- The text of a program over several lines. -/
def toText (program : Program Float) : String :=
  program.toJson.pretty

/-- The program that a text describes. -/
def ofText (text : String) : Except (Error Float) (Program Float) :=
  match Json.ofText? text >>= ofJson? .outer with
  | some program => .ok program
  | none => .error .malformed

end Program

end WormBattle
