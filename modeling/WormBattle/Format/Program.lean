import WormBattle.Json.Tree
import WormBattle.Program.Basic

/-!
# The JSON form of programs

A statement is an object whose member `stmt` names what it is, an expression one with `expr`, a
value one with `type`; their parts are members beside it. A program is an object with its statement
as `root` and its variables as `globals`.

Each form has an encoder and a decoder. A decoder is told where the form stands (`Json.Place`).
Those of nested forms also take a bound on the depth of the tree, which `Statement.ofJson?` and
`Expression.ofJson?` take from the tree itself.
-/

namespace WormBattle

open Json (nat optional object array)

/-! ### Names -/

namespace UnaryOp

/-- The written name of an operator. -/
def name : UnaryOp → String
  | not => "not" | negate => "negate" | sqrt => "sqrt" | sin => "sin" | cos => "cos"

/-- The operator of a written name. -/
def ofName? : String → Option UnaryOp
  | "not" => some not
  | "negate" => some negate
  | "sqrt" => some sqrt
  | "sin" => some sin
  | "cos" => some cos
  | _ => none

end UnaryOp

namespace BinaryOp

/-- The written name of an operator. -/
def name : BinaryOp → String
  | add => "add" | sub => "sub" | mul => "mul" | div => "div"
  | lt => "lt" | le => "le" | gt => "gt" | ge => "ge"
  | eq => "eq" | ne => "ne"
  | and => "and" | or => "or"

/-- The operator of a written name. -/
def ofName? : String → Option BinaryOp
  | "add" => some add
  | "sub" => some sub
  | "mul" => some mul
  | "div" => some div
  | "lt" => some lt
  | "le" => some le
  | "gt" => some gt
  | "ge" => some ge
  | "eq" => some eq
  | "ne" => some ne
  | "and" => some and
  | "or" => some or
  | _ => none

end BinaryOp

namespace Property

/-- The written name of a property. -/
def name : Property → String
  | x => "x" | y => "y" | radius => "radius" | direction => "direction"
  | actionPoints => "action_points" | maxActionPoints => "max_action_points"
  | hitPoints => "hit_points" | maxHitPoints => "max_hit_points"

/-- The property of a written name. -/
def ofName? : String → Option Property
  | "x" => some x
  | "y" => some y
  | "radius" => some radius
  | "direction" => some direction
  | "action_points" => some actionPoints
  | "max_action_points" => some maxActionPoints
  | "hit_points" => some hitPoints
  | "max_hit_points" => some maxHitPoints
  | _ => none

end Property

namespace EntityFilter

/-- The written name of a filter. -/
def name : EntityFilter → String
  | worm => "worm" | food => "food" | any => "any"

/-- The filter of a written name. -/
def ofName? : String → Option EntityFilter
  | "worm" => some worm
  | "food" => some food
  | "any" => some any
  | _ => none

end EntityFilter

/-! ### Values -/

/-- The number of an entity. -/
def EntityId.ofJson? (j : Json) : Option EntityId :=
  (j.unsigned? 64).map EntityId.mk

namespace Value

/-- The form of a value. -/
def toJson : Value Float → Json
  | double x => object [("type", .string "double"), ("value", Json.double x)]
  | bool b => object [("type", .string "bool"), ("value", .bool b)]
  | entity id =>
    object [("type", .string "entity"), ("value", optional (fun id => nat id.value) id)]

/-- The names of the kinds, in the order of their numbers. -/
def tags : List String :=
  ["double", "bool", "entity"]

/-- The value of a kind with the form of its content. A reference may be left out, and is the null
reference then. -/
def ofContent? (type : String) (content : Option Json) : Option (Value Float) :=
  match type, content with
  | "double", some j => j.double?.map double
  | "bool", some j => j.bool?.map bool
  | "entity", some j => (j.optional? EntityId.ofJson?).map entity
  | "entity", none => some (entity none)
  | _, _ => none

/-- The value of a form. Its kind is a constant in an object, and the tag of an array. -/
def ofJson? (place : Json.Place) : Json → Option (Value Float)
  | .array [type, content] => do
    ofContent? (← type.tag? place tags) (some content)
  | .array _ => none
  | j => do
    let fields ← j.record? ["type", "value"]
    ofContent? (← fields.required "type" (Json.constant? place)) (fields "value")

end Value

/-! ### Expressions -/

namespace Expression

/-- The form of an expression. -/
def toJson : Expression Float → Json
  | literal value => object [("expr", .string "literal"), ("value", value.toJson)]
  | selfRef => object [("expr", .string "self_ref")]
  | global name => object [("expr", .string "variable"), ("name", .string name)]
  | unary op operand =>
    object [("expr", .string "unary"), ("op", .string op.name), ("operand", operand.toJson)]
  | binary op lhs rhs =>
    object [("expr", .string "binary"), ("op", .string op.name), ("lhs", lhs.toJson),
      ("rhs", rhs.toJson)]
  | inspect property target =>
    object [("expr", .string "inspect"), ("property", .string property.name),
      ("target", target.toJson)]
  | sameTeam target => object [("expr", .string "same_team"), ("target", target.toJson)]
  | isWorm target => object [("expr", .string "is_worm"), ("target", target.toJson)]
  | isFood target => object [("expr", .string "is_food"), ("target", target.toJson)]
  | search angle => object [("expr", .string "search"), ("angle", angle.toJson)]

/-- The tags of expressions, in the order of their numbers. -/
def tags : List String :=
  ["literal", "self_ref", "variable", "unary", "binary", "inspect", "same_team", "is_worm",
    "is_food", "search"]

/-- The expression of a form that is nested no deeper than a bound. -/
def ofJsonWithin? : Nat → Json.Place → Json → Option (Expression Float)
  | 0, _, _ => none
  | depth + 1, place, j => do
    let (tag, rest) ← j.tagged? place "expr" tags
    let inner := ofJsonWithin? depth .inner
    match tag with
    | "literal" =>
      let fields ← rest.record? ["value"]
      return literal (← fields.required "value" (Value.ofJson? .inner))
    | "self_ref" =>
      rest.noFields?
      return selfRef
    | "variable" =>
      let fields ← rest.record? ["name"]
      return global (← fields.required "name" Json.string?)
    | "unary" =>
      let fields ← rest.record? ["op", "operand"]
      let op ← fields.required "op" fun j => j.constant? .inner >>= UnaryOp.ofName?
      return unary op (← fields.required "operand" inner)
    | "binary" =>
      let fields ← rest.record? ["op", "lhs", "rhs"]
      let op ← fields.required "op" fun j => j.constant? .inner >>= BinaryOp.ofName?
      return binary op (← fields.required "lhs" inner) (← fields.required "rhs" inner)
    | "inspect" =>
      let fields ← rest.record? ["property", "target"]
      let property ← fields.required "property" fun j => j.constant? .inner >>= Property.ofName?
      return inspect property (← fields.required "target" inner)
    | "same_team" =>
      let fields ← rest.record? ["target"]
      return sameTeam (← fields.required "target" inner)
    | "is_worm" =>
      let fields ← rest.record? ["target"]
      return isWorm (← fields.required "target" inner)
    | "is_food" =>
      let fields ← rest.record? ["target"]
      return isFood (← fields.required "target" inner)
    | "search" =>
      let fields ← rest.record? ["angle"]
      return search (← fields.required "angle" inner)
    | _ => none

/-- The expression of a form, all of which has to be readable. -/
def ofJson? (place : Json.Place) (j : Json) : Option (Expression Float) :=
  if j.isWhole then ofJsonWithin? j.depth place j else none

end Expression

/-! ### Statements -/

namespace Statement

mutual

/-- The form of a statement. -/
def toJson : Statement Float → Json
  | turn angle => object [("stmt", .string "turn"), ("angle", angle.toJson)]
  | move => object [("stmt", .string "move")]
  | jump => object [("stmt", .string "jump")]
  | toggleWeapon => object [("stmt", .string "toggle_weapon")]
  | fire yieldPercent =>
    object [("stmt", .string "fire"), ("yield_percent", yieldPercent.toJson)]
  | skip => object [("stmt", .string "skip")]
  | assign name value =>
    object [("stmt", .string "assign"), ("variable", .string name), ("value", value.toJson)]
  | print value => object [("stmt", .string "print"), ("value", value.toJson)]
  | ifElse condition then_ otherwise =>
    object [("stmt", .string "if"), ("condition", condition.toJson), ("then", then_.toJson),
      ("otherwise", otherwise.toJson)]
  | whileLoop condition body =>
    object [("stmt", .string "while"), ("condition", condition.toJson), ("body", body.toJson)]
  | forEach filter name body =>
    object [("stmt", .string "for_each"), ("filter", .string filter.name),
      ("variable", .string name), ("body", body.toJson)]
  | sequence statements =>
    object [("stmt", .string "sequence"), ("statements", array (toJsonAll statements))]

/-- The forms of some statements. -/
def toJsonAll : List (Statement Float) → List Json
  | [] => []
  | s :: rest => s.toJson :: toJsonAll rest

end

/-- The tags of statements, in the order of their numbers. -/
def tags : List String :=
  ["turn", "move", "jump", "toggle_weapon", "fire", "skip", "assign", "print", "if", "while",
    "for_each", "sequence"]

/-- The statement of a form that is nested no deeper than a bound. -/
def ofJsonWithin? : Nat → Json.Place → Json → Option (Statement Float)
  | 0, _, _ => none
  | depth + 1, place, j => do
    let (tag, rest) ← j.tagged? place "stmt" tags
    let inner := ofJsonWithin? depth .inner
    let expression := Expression.ofJson? .inner
    match tag with
    | "turn" =>
      let fields ← rest.record? ["angle"]
      return turn (← fields.required "angle" expression)
    | "move" =>
      rest.noFields?
      return move
    | "jump" =>
      rest.noFields?
      return jump
    | "toggle_weapon" =>
      rest.noFields?
      return toggleWeapon
    | "fire" =>
      let fields ← rest.record? ["yield_percent"]
      return fire (← fields.required "yield_percent" expression)
    | "skip" =>
      rest.noFields?
      return skip
    | "assign" =>
      let fields ← rest.record? ["variable", "value"]
      let name ← fields.required "variable" Json.string?
      return assign name (← fields.required "value" expression)
    | "print" =>
      let fields ← rest.record? ["value"]
      return print (← fields.required "value" expression)
    | "if" =>
      let fields ← rest.record? ["condition", "then", "otherwise"]
      let condition ← fields.required "condition" expression
      return ifElse condition (← fields.required "then" inner) (← fields.required "otherwise" inner)
    | "while" =>
      let fields ← rest.record? ["condition", "body"]
      let condition ← fields.required "condition" expression
      return whileLoop condition (← fields.required "body" inner)
    | "for_each" =>
      let fields ← rest.record? ["filter", "variable", "body"]
      let filter ← fields.required "filter" fun j => j.constant? .inner >>= EntityFilter.ofName?
      let name ← fields.required "variable" Json.string?
      return forEach filter name (← fields.required "body" inner)
    | "sequence" =>
      let fields ← rest.record? ["statements"]
      return sequence (← fields.required "statements" (Json.list? inner))
    | _ => none

/-- The statement of a form, all of which has to be readable. -/
def ofJson? (place : Json.Place) (j : Json) : Option (Statement Float) :=
  if j.isWhole then ofJsonWithin? j.depth place j else none

end Statement

/-! ### Programs -/

namespace Globals

/-- The form of a table of variables. -/
def toJson (globals : Globals Float) : Json :=
  object (globals.entries.map fun (name, value) => (name, value.toJson))

/-- The table of a form; the last of several values of a variable counts. -/
def ofJson? (place : Json.Place) : Json → Option (Globals Float)
  | object members => do
    let entries ← members.mapM fun (name, j) => do return (name, ← Value.ofJson? place j)
    return .ofList entries
  | _ => none

end Globals

namespace Program

/-- The form of a program. -/
def toJson (program : Program Float) : Json :=
  object [("root", program.root.toJson), ("globals", program.globals.toJson)]

/-- The program of a form. -/
def ofJson? (place : Json.Place) (j : Json) : Option (Program Float) := do
  let fields ← j.record? ["root", "globals"]
  let root ← fields.required "root" (Statement.ofJson? place)
  return { root, globals := ← fields.default "globals" (Globals.ofJson? place) .empty }

end Program

end WormBattle
