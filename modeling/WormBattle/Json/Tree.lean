import WormBattle.Decimal.Text

/-!
# JSON trees

A JSON text stands for a tree. Numbers remember how they were written: a whole number that fits into
64 bits stays a whole number, every other one is a double, and a decoder that asks for a count takes
the former only.

A text can be well-formed and yet have parts that stand for nothing: a number beyond all doubles,
half of a surrogate pair. Such a part is an `unreadable` leaf. It does no harm where nobody reads
it, in a member that a decoder does not know.

The decoders of the library are functions from trees to optional values. Those of a **record** read
the fields through `Json.record?`, those of a **tagged** choice split off the tag with
`Json.tagged?`. Besides an object, either may be written as the array of its fields in their order.

A tagged form is looked over as a whole before its parts are read, since its tag may stand anywhere
in it. So all of it has to be readable (`Json.isWhole`), and its parts may be written more freely:
what else a form may look like depends on its `Place`.
-/

namespace WormBattle

/-- A number as it was written. -/
inductive Json.Number where
  /-- A whole number below `2 ^ 64`. -/
  | natural (n : Nat)
  /-- A whole number below zero and not below `-2 ^ 63`, without its sign. -/
  | negative (n : Nat)
  /-- Any other number. -/
  | double (x : Float)
  deriving Repr

/-- JSON trees. An object keeps its members in the order in which they were written. -/
inductive Json where
  /-- The word `null`. -/
  | null
  /-- The word `true` or `false`. -/
  | bool (b : Bool)
  /-- A number. -/
  | number (n : Json.Number)
  /-- A text in quotes. -/
  | string (s : String)
  /-- Trees in brackets. -/
  | array (items : List Json)
  /-- Named trees in braces. -/
  | object (members : List (String × Json))
  /-- What is well-formed but stands for nothing. -/
  | unreadable
  deriving Repr, Inhabited

namespace Json

/-! ### Depth -/

mutual

/-- How deep a tree is nested; a leaf has depth one. -/
def depth : Json → Nat
  | array items => depthOfItems items + 1
  | object members => depthOfMembers members + 1
  | null | bool _ | number _ | string _ | unreadable => 1

/-- The depth of the deepest of some trees. -/
def depthOfItems : List Json → Nat
  | [] => 0
  | j :: rest => max j.depth (depthOfItems rest)

/-- The depth of the deepest of some named trees. -/
def depthOfMembers : List (String × Json) → Nat
  | [] => 0
  | (_, j) :: rest => max j.depth (depthOfMembers rest)

end

/-! ### Readability -/

mutual

/-- Whether a tree has no unreadable part. -/
def isWhole : Json → Bool
  | unreadable => false
  | array items => areWholeItems items
  | object members => areWholeMembers members
  | null | bool _ | number _ | string _ => true

/-- Whether some trees have no unreadable part. -/
def areWholeItems : List Json → Bool
  | [] => true
  | j :: rest => j.isWhole && areWholeItems rest

/-- Whether some named trees have no unreadable part. -/
def areWholeMembers : List (String × Json) → Bool
  | [] => true
  | (_, j) :: rest => j.isWhole && areWholeMembers rest

end

/-- Where a form stands. -/
inductive Place where
  /-- Not inside a form that is looked over as a whole. -/
  | outer
  /-- Itself looked over as a whole, to find out what kind of form it is. -/
  | enclosed
  /-- Inside a tagged form. -/
  | inner
  deriving Repr, DecidableEq

/-- Whether the tag of a form may be given by its number. -/
def Place.takesNumbers : Place → Bool
  | outer => false
  | enclosed | inner => true

/-- Whether an object that names a constant may give the name to an empty object. -/
def Place.takesEmpty : Place → Bool
  | outer | enclosed => false
  | inner => true

/-! ### Encoding the leaves -/

/-- A count. -/
def nat (n : Nat) : Json :=
  number (.natural n)

/-- A double; JSON has no word for one that is not finite. -/
def double (x : Float) : Json :=
  if x.isFinite then number (.double x) else null

/-- An optional value, absent as `null`. -/
def optional {β : Type} (encode : β → Json) : Option β → Json
  | some x => encode x
  | none => null

/-! ### Decoding the leaves -/

/-- A text. -/
def string? : Json → Option String
  | string s => some s
  | _ => none

/-- A truth value. -/
def bool? : Json → Option Bool
  | bool b => some b
  | _ => none

/-- A double, however it is written. -/
def double? : Json → Option Float
  | number (.natural n) => some (Float.ofNat n)
  | number (.negative n) => some (-Float.ofNat n)
  | number (.double x) => some x
  | _ => none

/-- A whole number of at most so many bits, written as one. -/
def unsigned? (bits : Nat) : Json → Option Nat
  | number (.natural n) => if n < Nat.pow 2 bits then some n else none
  | _ => none

/-- A word of 32 bits, written as a whole number. -/
def word? (j : Json) : Option UInt32 :=
  (j.unsigned? 32).map UInt32.ofNat

/-- An optional value, absent as `null`. -/
def optional? {β : Type} (decode : Json → Option β) : Json → Option (Option β)
  | null => some none
  | j => (decode j).map some

/-- A list of values. -/
def list? {β : Type} (decode : Json → Option β) : Json → Option (List β)
  | array items => items.mapM decode
  | _ => none

/-- The name of one of several constants: the name itself, or an object that gives the name to
`null`. -/
def constant? (place : Place) : Json → Option String
  | string s => some s
  | object [(name, null)] => some name
  | object [(name, object [])] => if place.takesEmpty then some name else none
  | _ => none

/-- The tag of a choice with the given tags: the tag itself, or its number counted from zero. -/
def tag? (place : Place) (tags : List String) : Json → Option String
  | string name => some name
  | number (.natural n) => if place.takesNumbers then tags[n]? else none
  | _ => none

/-! ### Records -/

/-- The fields of a record that were written. -/
abbrev Fields := String → Option Json

/-- The fields of a record with the given field names. An object may hold other members, which do
not count, but none of the fields twice; an array holds the first fields in their order. -/
def record? (names : List String) : Json → Option Fields
  | object members =>
    if names.all fun name => (members.filter fun m => m.1 == name).length ≤ 1 then
      some fun name => (members.find? fun m => m.1 == name).map Prod.snd
    else none
  | array items =>
    if items.length ≤ names.length then
      some fun name => ((names.zip items).find? fun m => m.1 == name).map Prod.snd
    else none
  | _ => none

/-- The tag of a choice with the given tags, and what else was written. -/
def tagged? (place : Place) (tag : String) (tags : List String) : Json → Option (String × Json)
  | object members =>
    match members.filter fun m => m.1 == tag with
    | [(_, j)] => do
      return (← j.tag? place tags, object (members.filter fun m => !(m.1 == tag)))
    | _ => none
  | array (j :: items) => do
    return (← j.tag? place tags, array items)
  | _ => none

/-- A choice without fields, after its tag has been split off. -/
def noFields? : Json → Option Unit
  | object _ => some ()
  | array [] => some ()
  | _ => none

namespace Fields

variable {β : Type}

/-- A field that has to be there. -/
def required (fields : Fields) (name : String) (decode : Json → Option β) : Option β :=
  fields name >>= decode

/-- A field that may be missing. -/
def default (fields : Fields) (name : String) (decode : Json → Option β) (value : β) : Option β :=
  match fields name with
  | some j => decode j
  | none => some value

end Fields

end Json

end WormBattle
