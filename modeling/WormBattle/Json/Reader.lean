import WormBattle.Json.Leaf

/-!
# Reading JSON texts

Strict JSON: one tree, white space around it, and nothing else.

Arrays and objects are read when they are nested at most `maxDepth` deep. What is nested deeper is
passed over: it has to be well-formed, and stands in the tree as an unreadable leaf. So does an
object with an unreadable name.
-/

namespace WormBattle.Json

/-- The name of a member, up to the tree that it names. -/
def memberName? : Reader (Option String)
  | '"' :: rest => do
    let (name, rest) ← stringTail? rest
    match skipBlank rest with
    | ':' :: rest => return (name, skipBlank rest)
    | _ => none
  | _ => none

/-! ### Passing over -/

/-- The two kinds of brackets. -/
inductive Bracket where
  /-- The brackets of an array. -/
  | square
  /-- The braces of an object. -/
  | curly
  deriving Repr, DecidableEq

/-- What a text that is passed over has to go on with. -/
inductive Awaited where
  /-- A tree. -/
  | tree
  /-- A tree, or the end of an array that holds none yet. -/
  | treeOrEnd
  /-- A member. -/
  | member
  /-- A member, or the end of an object that holds none yet. -/
  | memberOrEnd
  /-- What comes after a tree. -/
  | follower
  deriving Repr, DecidableEq

/-- Pass over the rest of a tree, given the brackets that are open, the innermost first. The first
argument is a bound on the number of steps. -/
def passOver? : Nat → List Bracket → Awaited → List Char → Option (List Char)
  | 0, _, _, _ => none
  | bound + 1, opened, awaited, text =>
    match awaited, opened, skipBlank text with
    | .follower, [], _ => some text
    | .follower, .square :: outer, ']' :: rest
    | .treeOrEnd, .square :: outer, ']' :: rest
    | .follower, .curly :: outer, '\x7d' :: rest
    | .memberOrEnd, .curly :: outer, '\x7d' :: rest => passOver? bound outer .follower rest
    | .follower, .square :: _, ',' :: rest => passOver? bound opened .tree rest
    | .follower, .curly :: _, ',' :: rest => passOver? bound opened .member rest
    | .follower, _, _ => none
    | .member, _, rest | .memberOrEnd, _, rest =>
      match memberName? rest with
      | some (_, rest) => passOver? bound opened .tree rest
      | none => none
    | .tree, _, '[' :: rest | .treeOrEnd, _, '[' :: rest =>
      passOver? bound (.square :: opened) .treeOrEnd rest
    | .tree, _, '\x7b' :: rest | .treeOrEnd, _, '\x7b' :: rest =>
      passOver? bound (.curly :: opened) .memberOrEnd rest
    | .tree, _, rest | .treeOrEnd, _, rest =>
      match leaf? rest with
      | some (_, rest) => passOver? bound opened .follower rest
      | none => none

/-- Pass over a tree. Every step but the last takes a character. -/
def skipTree? : Reader Json := fun text =>
  (passOver? (text.length + 1) [] .tree text).map fun rest => (unreadable, rest)

/-! ### Trees -/

/-- Elements separated by commas up to a closing character. The first argument is a bound on their
number, for which the length of the text will do. -/
def elements {β : Type} (element : Reader β) (close : Char) : Nat → Reader (List β)
  | 0, _ => none
  | bound + 1, text => do
    let (first, rest) ← element (skipBlank text)
    match skipBlank rest with
    | ',' :: rest =>
      let (others, rest) ← elements element close bound rest
      return (first :: others, rest)
    | c :: rest => if c = close then some ([first], rest) else none
    | [] => none

/-- Any number of elements up to a closing character. -/
def enclosed {β : Type} (element : Reader β) (close : Char) (text : List Char) :
    Option (List β × List Char) :=
  match skipBlank text with
  | [] => none
  | c :: rest => if c = close then some ([], rest) else elements element close text.length text

/-- A member of an object. -/
def member? (tree : Reader Json) : Reader (Option String × Json) := fun text => do
  let (name, rest) ← memberName? text
  let (j, rest) ← tree rest
  return ((name, j), rest)

/-- The object of some members, unless a name is unreadable. -/
def ofMembers (members : List (Option String × Json)) : Json :=
  match members.mapM fun (name, j) => name.map fun name => (name, j) with
  | some members => object members
  | none => unreadable

/-- A tree with arrays and objects nested so deep. -/
def tree? : Nat → Reader Json
  | 0, text =>
    match text with
    | '[' :: _ | '\x7b' :: _ => skipTree? text
    | _ => leaf? text
  | depth + 1, '[' :: rest =>
    (enclosed (tree? depth) ']' rest).map fun (items, rest) => (array items, rest)
  | depth + 1, '\x7b' :: rest =>
    (enclosed (member? (tree? depth)) '\x7d' rest).map fun (ms, rest) => (ofMembers ms, rest)
  | _ + 1, text => leaf? text

/-- The deepest nesting of arrays and objects that is read. -/
def maxDepth : Nat :=
  127

/-- The tree that a text stands for. -/
def ofText? (text : String) : Option Json :=
  match tree? maxDepth (skipBlank text.toList) with
  | some (j, rest) => if (skipBlank rest).isEmpty then some j else none
  | none => none

end WormBattle.Json
