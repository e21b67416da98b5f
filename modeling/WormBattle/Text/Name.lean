import WormBattle.Text.Letter

/-!
# Names

Teams are named by a single word of letters, worms by letters, numbers, blanks and quotes. Either
name starts with a capital and has two characters at least.
-/

namespace WormBattle.Text

/-- Two characters at least, the first of them a capital, and all of them allowed. -/
def isCapitalised (allowed : Char → Bool) (name : String) : Bool :=
  match name.toList with
  | first :: second :: rest => isUppercase first && (first :: second :: rest).all allowed
  | _ => false

/-- The names of teams. -/
def isTeamName (name : String) : Bool :=
  isCapitalised isAlphabetic name

/-- The names of worms. -/
def isWormName (name : String) : Bool :=
  isCapitalised (fun c => isAlphanumeric c || c == ' ' || c == '\'' || c == '"') name

end WormBattle.Text
