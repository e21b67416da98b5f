import Mathlib.Logic.Relation
import WormBattle.Proofs.Entity.Worm
import WormBattle.Proofs.Execution.Made
import WormBattle.Proofs.World.Lookup
import WormBattle.World.Spawn

/-!
# Changes of worlds

What can happen to a world between two turns, one elementary **change** at a time. Everything that a
command does is a sequence of these (`WormBattle.Proofs.World.Commands`), so what every change keeps
is kept by every command, done or refused.

* `Worm.Change` is a change of a listed worm, and `Worm.Made` holds of every worm that can be made.
* `World.Change` is a change of a world, and `World.Changes` a sequence of them.
-/

namespace WormBattle

variable {α : Type} [Scalar α]

/-! ### Entities -/

namespace Worm

/-- The changes of a worm that is listed by a world, other than at the start of its turn. A program
that it gets is its own. -/
inductive Change (worm : Worm α) : Worm α → Prop where
  /-- It turns. -/
  | turn {angle : α} {worm' : Worm α} : worm.turn angle = .ok worm' → Change worm worm'
  /-- It selects its next weapon. -/
  | selectNextWeapon : Change worm worm.selectNextWeapon
  /-- It is put somewhere else. -/
  | setPosition {position : Position α} {worm' : Worm α} :
      worm.setPosition position = .ok worm' → Change worm worm'
  /-- It grows. -/
  | grow {worm' : Worm α} : worm.grow = .ok worm' → Change worm worm'
  /-- It pays action points. -/
  | spend {cost : Nat} {worm' : Worm α} : worm.spend cost = .ok worm' → Change worm worm'
  /-- It loses its action points. -/
  | drain : Change worm worm.drain
  /-- It loses hit points. -/
  | damage (amount : Nat) : Change worm (worm.damage amount)
  /-- It joins a team. -/
  | join (team : String) : Change worm { worm with team := some team }
  /-- Its program is taken away, or given back. -/
  | setProgram {program : Option (ProgramInstance α)} :
      (∀ i, program = some i → i.Made ∧ i.worm = some worm.id) → Change worm { worm with program }

/-- The worms that can be made, in any standing towards worlds. -/
inductive Made : Worm α → Prop where
  /-- A new worm. -/
  | make {name : String} {position : Position α} {direction radius : α} {config : WormConfig α}
      {id : EntityId} {worm : Worm α} :
      Worm.make name position direction radius config id = .ok worm → Made worm
  /-- A worm that has changed. -/
  | change {worm worm' : Worm α} : Made worm → worm.Change worm' → Made worm'
  /-- A worm under another name. -/
  | rename {worm worm' : Worm α} {name : String} :
      Made worm → worm.rename name = .ok worm' → Made worm'
  /-- A worm facing another direction. -/
  | setDirection {worm worm' : Worm α} {direction : α} :
      Made worm → worm.setDirection direction = .ok worm' → Made worm'
  /-- A worm at the start of its turn. -/
  | replenish {worm worm' : Worm α} : Made worm → worm.replenish = .ok worm' → Made worm'
  /-- A worm in another standing. -/
  | setMembership {worm : Worm α} (membership : Membership) :
      Made worm → Made { worm with body := { worm.body with membership } }

variable {worm worm' : Worm α}

/-- What a change leaves alone: the number, the standing and the program of a worm, unless it is
the program that changes. -/
theorem Change.frame (h : worm.Change worm') :
    worm'.id = worm.id ∧ worm'.body.membership = worm.body.membership ∧
      (worm'.program = worm.program ∨
        ∀ i, worm'.program = some i → i.Made ∧ i.worm = some worm.id) := by
  cases h with
  | turn h =>
    obtain ⟨cost, -, -, rfl⟩ := turn_eq_ok_iff.mp h
    exact ⟨rfl, rfl, .inl rfl⟩
  | setPosition h =>
    obtain ⟨-, rfl⟩ := setPosition_eq_ok_iff.mp h
    exact ⟨rfl, rfl, .inl rfl⟩
  | grow h =>
    obtain ⟨-, rfl⟩ := grow_eq_ok_iff.mp h
    exact ⟨rfl, rfl, .inl rfl⟩
  | spend h =>
    obtain ⟨-, rfl⟩ := spend_eq_ok_iff.mp h
    exact ⟨rfl, rfl, .inl rfl⟩
  | selectNextWeapon | drain | damage | join => exact ⟨rfl, rfl, .inl rfl⟩
  | setProgram h => exact ⟨rfl, rfl, .inr h⟩

/-- A worm keeps its number. -/
theorem Change.id_eq (h : worm.Change worm') : worm'.id = worm.id :=
  h.frame.1

/-- A change of a worm does not take it out of its world. -/
theorem Change.membership_eq (h : worm.Change worm') :
    worm'.body.membership = worm.body.membership :=
  h.frame.2.1

/-- The program of a worm is bound to it. -/
theorem Made.program (h : worm.Made) {i : ProgramInstance α} (hi : worm.program = some i) :
    i.Made ∧ i.worm = some worm.id := by
  induction h generalizing i with
  | make h =>
    obtain ⟨-, -, -, rfl⟩ := make_eq_ok_iff.mp h
    cases hi
  | change _ h ih =>
    obtain ⟨hid, -, hsame | hown⟩ := h.frame
    · rw [hid]
      exact ih (hsame.symm.trans hi)
    · rw [hid]
      exact hown i hi
  | rename _ h ih =>
    obtain ⟨-, rfl⟩ := rename_eq_ok_iff.mp h
    exact ih hi
  | setDirection _ h ih =>
    obtain ⟨-, rfl⟩ := setDirection_eq_ok_iff.mp h
    exact ih hi
  | replenish _ h ih =>
    obtain ⟨-, rfl⟩ := replenish_eq_ok_iff.mp h
    exact ih hi
  | setMembership _ _ ih => exact ih hi

end Worm

/-! ### Worlds -/

namespace World

/-- The way in which worms may pass while a world changes. -/
inductive Traffic where
  /-- Worms may enter. -/
  | entering
  /-- Worms may leave. -/
  | leaving

/-- The changes of a world between two turns. -/
inductive Change (traffic : Traffic) (w : World α) : World α → Prop where
  /-- A listed worm changes, and stays in its team. -/
  | worm {worm worm' : Worm α} : w.worm? worm.id = some worm → worm.Change worm' →
      worm'.team = worm.team → Change traffic w (w.setWorm worm')
  /-- A listed worm joins a team of the world. -/
  | join {worm : Worm α} {team : String} : w.worm? worm.id = some worm →
      (w.team? team).isSome → Change traffic w (w.setWorm { worm with team := some team })
  /-- A worm enters at the end of the turn order. -/
  | addWorm {worm : Worm α} {body : Body α} : traffic = .entering → worm.Made →
      w.checkRegistrable worm.body = .ok () →
      (∀ team, worm.team = some team → (w.team? team).isSome) → worm.body.attach w.id = .ok body →
      Change traffic w { w with worms := w.worms ++ [{ worm with body }] }
  /-- A worm leaves. -/
  | removeWorm {id : EntityId} {index : Nat} : traffic = .leaving →
      w.worms.findIdx? (fun worm => worm.id = id) = some index →
      Change traffic w { w with worms := w.worms.eraseIdx index, state := w.stateWithout index }
  /-- A ration enters. -/
  | addFood {food : Food α} {body : Body α} : w.checkRegistrable food.body = .ok () →
      food.body.attach w.id = .ok body →
      Change traffic w { w with food := insertFood { food with body } w.food }
  /-- A ration leaves. -/
  | removeFood {id : EntityId} {food : Food α} : w.food? id = some food →
      Change traffic w { w with food := w.food.eraseP fun f => f.id = id }
  /-- A projectile enters an empty sky. -/
  | launch {projectile : Projectile α} {body : Body α} : w.projectile = none →
      w.checkRegistrable projectile.body = .ok () → projectile.body.attach w.id = .ok body →
      Change traffic w { w with projectile := some { projectile with body } }
  /-- The projectile leaves. -/
  | land : Change traffic w { w with projectile := none }
  /-- A team enters, as long as there is room for it. -/
  | addTeam {team : Team} : w.isTerminated = false → w.team? team.name = none →
      w.teams.length < w.config.spawn.maxTeams →
      Change traffic w { w with teams := w.teams ++ [team] }
  /-- A random number is drawn. -/
  | draw : Change traffic w { w with random := w.random.next.2 }

/-- A sequence of changes. -/
def Changes (traffic : Traffic) : World α → World α → Prop :=
  Relation.ReflTransGen (Change traffic)

variable {traffic : Traffic} {w w' w'' : World α} {worm worm' : Worm α} {id : EntityId}

/-- No change at all. -/
@[refl] theorem Changes.refl (w : World α) : w.Changes traffic w :=
  Relation.ReflTransGen.refl

/-- Changes after changes. -/
theorem Changes.trans (h : w.Changes traffic w') (h' : w'.Changes traffic w'') :
    w.Changes traffic w'' :=
  Relation.ReflTransGen.trans h h'

/-- One change. -/
theorem Change.changes (h : w.Change traffic w') : w.Changes traffic w' :=
  Relation.ReflTransGen.single h

/-- One more change at the end. -/
theorem Changes.tail (h : w.Changes traffic w') (h' : w'.Change traffic w'') :
    w.Changes traffic w'' :=
  Relation.ReflTransGen.tail h h'

/-- What every change keeps is kept by a sequence of them. -/
theorem Changes.keeps {P : World α → Prop} (hchange : ∀ w w', P w → w.Change traffic w' → P w')
    (h : w.Changes traffic w') (hP : P w) : P w' := by
  induction h with
  | refl => exact hP
  | tail _ h ih => exact hchange _ _ ih h

/-- A listed worm that changes, in its team. -/
theorem Changes.of_worm (h : w.worm? worm.id = some worm) (h' : worm.Change worm')
    (hteam : worm'.team = worm.team) : w.Changes traffic (w.setWorm worm') :=
  (Change.worm h h' hteam).changes

/-- A worm is found again after it has changed. -/
theorem worm?_setWorm_change (h : w.worm? worm.id = some worm) (h' : worm.Change worm') :
    (w.setWorm worm').worm? worm'.id = some worm' :=
  worm?_setWorm_self (h'.id_eq.symm ▸ h)

end World

end WormBattle
