import WormBattle.Json.Tree

/-!
# Reading the leaves of JSON texts

A reader takes characters off the front of a text and returns what it read with the rest.

A number that is not a whole number of 64 bits is read as a double: its leading digits, as many as
fit into 64 bits, are taken as a whole number, and one multiplication or division by a power of ten
puts the point in its place. A number that is too large for a double is unreadable, and so is a
string with half of a surrogate pair.
-/

namespace WormBattle.Json

/-- What was read, and the rest of the text. -/
abbrev Reader (β : Type) := List Char → Option (β × List Char)

/-- The text after white space. -/
def skipBlank : List Char → List Char
  | c :: rest => if c = ' ' ∨ c = '\n' ∨ c = '\t' ∨ c = '\r' then skipBlank rest else c :: rest
  | [] => []

/-! ### Strings -/

/-- The value of a hexadecimal digit. -/
def hexDigit? (c : Char) : Option Nat :=
  if '0' ≤ c ∧ c ≤ '9' then some (c.toNat - '0'.toNat)
  else if 'a' ≤ c ∧ c ≤ 'f' then some (c.toNat - 'a'.toNat + 10)
  else if 'A' ≤ c ∧ c ≤ 'F' then some (c.toNat - 'A'.toNat + 10)
  else none

/-- The value of four hexadecimal digits. -/
def hexUnit? (a b c d : Char) : Option Nat := do
  return (((← hexDigit? a) * 16 + (← hexDigit? b)) * 16 + (← hexDigit? c)) * 16 + (← hexDigit? d)

/-- The character that a letter after a backslash stands for. -/
def escaped? : Char → Option Char
  | '"' => some '"'
  | '\\' => some '\\'
  | '/' => some '/'
  | 'b' => some '\x08'
  | 'f' => some '\x0c'
  | 'n' => some '\n'
  | 'r' => some '\r'
  | 't' => some '\t'
  | _ => none

/-- What one escape, or one character that is not escaped, gives to a string. -/
inductive StringPart where
  /-- A character. -/
  | char (c : Char)
  /-- Half of a character beyond the first plane, of which an escape can only give halves. -/
  | surrogate (unit : Nat)

/-- The part that an escaped number of 16 bits stands for. -/
def StringPart.ofUnit (unit : Nat) : StringPart :=
  if 0xD800 ≤ unit ∧ unit < 0xE000 then surrogate unit else char (Char.ofNat unit)

/-- The parts of a string after its opening quote, behind the parts before in reverse. -/
def stringParts? : List Char → List StringPart → Option (List StringPart × List Char)
  | [], _ => none
  | '"' :: rest, parts => some (parts, rest)
  | '\\' :: 'u' :: a :: b :: c :: d :: rest, parts =>
    match hexUnit? a b c d with
    | none => none
    | some unit => stringParts? rest (.ofUnit unit :: parts)
  | '\\' :: c :: rest, parts =>
    match escaped? c with
    | none => none
    | some e => stringParts? rest (.char e :: parts)
  | c :: rest, parts => if c < ' ' then none else stringParts? rest (.char c :: parts)

/-- The characters that some parts in reverse make up, before some others. Every leading surrogate
has to be followed by a trailing one, and every trailing one to follow one. -/
def joinReverse? : List StringPart → List Char → Option (List Char)
  | [], cs => some cs
  | .char c :: rest, cs => joinReverse? rest (c :: cs)
  | .surrogate low :: .surrogate high :: rest, cs =>
    if high < 0xDC00 ∧ 0xDC00 ≤ low then
      joinReverse? rest (Char.ofNat (0x10000 + (high - 0xD800) * 0x400 + (low - 0xDC00)) :: cs)
    else none
  | .surrogate _ :: _, _ => none

/-- A string after its opening quote, if it is readable. -/
def stringTail? : Reader (Option String) := fun text =>
  (stringParts? text []).map fun (parts, rest) =>
    ((joinReverse? parts []).map String.ofList, rest)

/-! ### Numbers -/

/-- The digits at the front of a text. -/
def digits (text : List Char) : List Nat × List Char :=
  ((text.takeWhile Char.isDigit).map fun c => c.toNat - '0'.toNat, text.dropWhile Char.isDigit)

/-- A number of 64 bits extended by digits for as long as it fits, and the digits left over. -/
def extend (n : Nat) : List Nat → Nat × List Nat
  | [] => (n, [])
  | d :: rest => if n * 10 + d < Nat.pow 2 64 then extend (n * 10 + d) rest else (n, d :: rest)

/-- A power of ten as a double. -/
def power (n : Nat) : Float :=
  Float.ofScientific 1 false n

/-- A double divided by a power of ten, in steps that are powers themselves. -/
def divideByPower (x : Float) (n : Nat) : Float :=
  if n ≤ 308 then x / power n
  else if x == 0.0 then x
  else divideByPower (x / power 308) (n - 308)
termination_by n
decreasing_by omega

/-- The double `n * 10 ^ exponent`, if it is not too large. -/
def scaled? (n : Nat) (exponent : Int) : Option Float :=
  let x := Float.ofNat n
  if exponent < 0 then some (divideByPower x exponent.natAbs)
  else if n = 0 then some x
  else if exponent ≤ 308 then
    let y := x * power exponent.natAbs
    if y.isFinite then some y else none
  else none

/-- A natural number from its digits. -/
def ofDigits (ds : List Nat) : Nat :=
  ds.foldl (fun n d => n * 10 + d) 0

/-- The sign of a double. -/
def withSign (minus : Bool) (x : Float) : Float :=
  if minus then -x else x

/-- The number written with a sign, digits before the point, digits after it if there are any, and
an exponent. -/
def numberOf? (minus : Bool) (whole : List Nat) (fraction : Option (List Nat))
    (exponent : Option Int) : Option Number :=
  let (n, dropped) := extend 0 whole
  match fraction, exponent, dropped with
  | none, none, [] =>
    if !minus then some (.natural n)
    else if n = 0 ∨ Nat.pow 2 63 < n then some (.double (-Float.ofNat n))
    else some (.negative n)
  | _, _, _ =>
    let after := fraction.getD []
    let (m, ignored) := extend n after
    let place : Int := dropped.length - (after.length - ignored.length : Nat)
    (scaled? m (place + exponent.getD 0)).map fun x => .double (withSign minus x)

/-- The digits before the point; a zero stands alone. -/
def wholePart? (text : List Char) : Option (List Nat × List Char) :=
  match digits text with
  | ([], _) => none
  | (0 :: _ :: _, _) => none
  | read => some read

/-- The digits after the point, of which there must be one, if there is a point. -/
def fraction? : Reader (Option (List Nat))
  | '.' :: rest =>
    match digits rest with
    | ([], _) => none
    | (ds, rest) => some (some ds, rest)
  | rest => some (none, rest)

/-- The digits of an exponent, after its letter. -/
def exponentDigits? (sign : Int) (text : List Char) : Option (Option Int × List Char) :=
  match digits text with
  | ([], _) => none
  | (ds, rest) => some (some (sign * ofDigits ds), rest)

/-- The exponent, if there is one. -/
def exponent? : Reader (Option Int)
  | 'e' :: '-' :: rest | 'E' :: '-' :: rest => exponentDigits? (-1) rest
  | 'e' :: '+' :: rest | 'E' :: '+' :: rest => exponentDigits? 1 rest
  | 'e' :: rest | 'E' :: rest => exponentDigits? 1 rest
  | rest => some (none, rest)

/-- A number without its sign. -/
def unsignedNumber? (minus : Bool) (text : List Char) : Option (Json × List Char) := do
  let (whole, rest) ← wholePart? text
  let (fraction, rest) ← fraction? rest
  let (exponent, rest) ← exponent? rest
  match numberOf? minus whole fraction exponent with
  | some n => return (number n, rest)
  | none => return (unreadable, rest)

/-! ### Leaves -/

/-- A tree that is neither an array nor an object. -/
def leaf? : Reader Json
  | 'n' :: 'u' :: 'l' :: 'l' :: rest => some (null, rest)
  | 't' :: 'r' :: 'u' :: 'e' :: rest => some (bool true, rest)
  | 'f' :: 'a' :: 'l' :: 's' :: 'e' :: rest => some (bool false, rest)
  | '"' :: rest => (stringTail? rest).map fun (s, rest) => (s.elim unreadable string, rest)
  | '-' :: rest => unsignedNumber? true rest
  | rest => unsignedNumber? false rest

end WormBattle.Json
