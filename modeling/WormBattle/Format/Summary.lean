import WormBattle.Battle
import WormBattle.Json.Tree

/-!
# The JSON form of summaries

How a battle ended and what the onlookers were told, as an object. An event names what it is as
`event`, a winner says as `kind` whether it is a team or a worm.
-/

namespace WormBattle

open Json (nat double optional object array)

/-- The form of an event. -/
def Event.toJson : Event Float → Json
  | print text => object [("event", .string "print"), ("text", .string text)]
  | moved worm => object [("event", .string "moved"), ("worm", nat worm.value)]
  | turned worm angle =>
    object [("event", .string "turned"), ("worm", nat worm.value), ("angle", double angle)]
  | jumped worm => object [("event", .string "jumped"), ("worm", nat worm.value)]
  | fired worm yieldPercent =>
    object [("event", .string "fired"), ("worm", nat worm.value),
      ("yield_percent", nat yieldPercent)]
  | selectedNextWeapon worm =>
    object [("event", .string "selected_next_weapon"), ("worm", nat worm.value)]

/-- The form of a winner. -/
def Winner.toJson : Winner → Json
  | team name => object [("kind", .string "team"), ("name", .string name)]
  | worm name => object [("kind", .string "worm"), ("name", .string name)]

/-- The form of what is told of a worm. -/
def WormSummary.toJson (worm : WormSummary Float) : Json :=
  object [
    ("name", .string worm.name),
    ("team", optional .string worm.team),
    ("x", double worm.position.x),
    ("y", double worm.position.y),
    ("radius", double worm.radius),
    ("direction", double worm.direction),
    ("hit_points", nat worm.hitPoints),
    ("action_points", nat worm.actionPoints)]

/-- The form of a summary. -/
def Summary.toJson (summary : Summary Float) : Json :=
  object [
    ("winner", optional Winner.toJson summary.winner),
    ("finished", .bool summary.finished),
    ("turns", nat summary.turns),
    ("worms", array (summary.worms.map WormSummary.toJson)),
    ("food_left", nat summary.foodLeft),
    ("events", array (summary.events.map Event.toJson))]

end WormBattle
