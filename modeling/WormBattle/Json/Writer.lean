import WormBattle.Json.Tree

/-!
# Writing JSON texts

A tree is written on one line without white space (`Json.compact`), or with every element on a line
of its own, indented by two blanks (`Json.pretty`). An unreadable leaf is written as `null`.
-/

namespace WormBattle.Json

/-- The hexadecimal digit of a number below sixteen. -/
def hexDigit (n : Nat) : Char :=
  if n < 10 then Char.ofNat ('0'.toNat + n) else Char.ofNat ('a'.toNat + n - 10)

/-- A character inside a quoted text. -/
def escape (c : Char) : List Char :=
  match c with
  | '"' => ['\\', '"']
  | '\\' => ['\\', '\\']
  | '\x08' => ['\\', 'b']
  | '\x0c' => ['\\', 'f']
  | '\n' => ['\\', 'n']
  | '\r' => ['\\', 'r']
  | '\t' => ['\\', 't']
  | c =>
    if c < ' ' then ['\\', 'u', '0', '0', hexDigit (c.toNat / 16), hexDigit (c.toNat % 16)]
    else [c]

/-- A text in quotes. -/
def quote (s : String) : String :=
  String.ofList ('"' :: s.toList.flatMap escape ++ ['"'])

/-- The text of a number; a double shows itself to be one. -/
def Number.text : Number → String
  | natural n => toString n
  | negative n => "-" ++ toString n
  | double x => Double.numberText x

/-- An opening and a closing character around parts that are separated by commas. -/
def enclose (opening closing : String) (parts : List String) : String :=
  opening ++ String.intercalate "," parts ++ closing

/-- The text of a tree on one line. -/
def compact : Json → String
  | null | unreadable => "null"
  | bool b => if b then "true" else "false"
  | number n => n.text
  | string s => quote s
  | array items => enclose "[" "]" (items.attach.map fun ⟨j, _⟩ => compact j)
  | object members =>
    enclose "\x7b" "\x7d" (members.attach.map fun ⟨(name, j), _⟩ => quote name ++ ":" ++ compact j)
termination_by j => sizeOf j
decreasing_by
  all_goals simp_wf
  · have := List.sizeOf_lt_of_mem ‹_›; omega
  · rename_i h; have := List.sizeOf_lt_of_mem h; simp at this; omega

/-- An opening and a closing character around parts on lines of their own. -/
def encloseLines (margin opening closing : String) (parts : List String) : String :=
  if parts.isEmpty then opening ++ closing
  else
    let lines := parts.map fun part => "\n" ++ margin ++ "  " ++ part
    opening ++ String.intercalate "," lines ++ "\n" ++ margin ++ closing

/-- The text of a tree over several lines, all but the first behind a margin. -/
def prettyAt (margin : String) : Json → String
  | null | unreadable => "null"
  | bool b => if b then "true" else "false"
  | number n => n.text
  | string s => quote s
  | array items =>
    encloseLines margin "[" "]" (items.attach.map fun ⟨j, _⟩ => prettyAt (margin ++ "  ") j)
  | object members =>
    encloseLines margin "\x7b" "\x7d"
      (members.attach.map fun ⟨(name, j), _⟩ => quote name ++ ": " ++ prettyAt (margin ++ "  ") j)
termination_by j => sizeOf j
decreasing_by
  all_goals simp_wf
  · have := List.sizeOf_lt_of_mem ‹_›; omega
  · rename_i h; have := List.sizeOf_lt_of_mem h; simp at this; omega

/-- The text of a tree over several lines. -/
def pretty (j : Json) : String :=
  prettyAt "" j

end WormBattle.Json
