import WormBattle.Error
import WormBattle.Text.Name

/-!
# Teams

Worms of one team win together.
-/

namespace WormBattle

/-- A team. -/
structure Team where
  /-- The team's name. -/
  name : String
  deriving Repr, DecidableEq

/-- A team of some name. -/
def Team.make {α : Type} (name : String) : Except (Error α) Team :=
  if Text.isTeamName name then .ok ⟨name⟩ else .error (.illegalTeamName name)

end WormBattle
