import WormBattle.Proofs.World.Commands
import WormBattle.Proofs.World.Sound

/-!
# Reachable simulations

A game begins with an empty world and goes on by **operations** in any order (`Simulation.Step`):
entities and teams come and go, worms act, programs run, turns are handed on. Between them entities
are made elsewhere, which uses up numbers, and onlookers take note of what they were told. An
operation that is refused is a step too.

Every operation other than the start of a turn and the end of the world is a sequence of changes
(`Operation.changes`). So there are few things that a step can do to its world (`World.Course`,
`Simulation.Step.course`), and whatever is shown of all steps is shown of each of these. All
reachable worlds are sound (`Simulation.Reachable.sound`).
-/

namespace WormBattle

variable {α : Type} [Scalar α]

/-- What can be done to a world from outside. -/
inductive Operation (α : Type) where
  /-- Add a worm. -/
  | addWorm (worm : Worm α)
  /-- Add a worm at a random spot. -/
  | addNewWorm (program : Option (ProgramInstance α))
  /-- Add a ration. -/
  | addFood (food : Food α)
  /-- Add a ration at a random spot. -/
  | addNewFood
  /-- Put a projectile into flight. -/
  | setProjectile (projectile : Projectile α)
  /-- Add a team. -/
  | addTeam (team : Team)
  /-- Let a worm join a team. -/
  | joinTeam (id : EntityId) (team : String)
  /-- Take out a worm. -/
  | removeWorm (id : EntityId)
  /-- Take out a ration. -/
  | removeFood (id : EntityId)
  /-- Take out the projectile. -/
  | removeProjectile
  /-- Let a worm turn. -/
  | turn (id : EntityId) (angle : α)
  /-- Let a worm select its next weapon. -/
  | selectNextWeapon (id : EntityId)
  /-- Let a worm move. -/
  | move (id : EntityId)
  /-- Let a worm fall. -/
  | fall (id : EntityId)
  /-- Let a worm eat. -/
  | eat (id : EntityId)
  /-- Let a worm jump. -/
  | jump (id : EntityId)
  /-- Let a worm jump with some sampling step. -/
  | jumpWith (id : EntityId) (timeStep : α)
  /-- Let a worm fire. -/
  | fire (id : EntityId) (yieldPercent : Nat)
  /-- Let a worm fire, and fly the shot to its end. -/
  | fireAndResolve (id : EntityId) (yieldPercent : Nat) (timeStep : α)
  /-- Fly the projectile to its end. -/
  | resolve (timeStep : α)
  /-- Let a worm do an action of a program. -/
  | act (id : EntityId) (action : Action α)
  /-- Run the program of a worm. -/
  | runProgram (id : EntityId)
  /-- Run the program of the worm that has the turn. -/
  | runCurrentProgram
  /-- Run a program on the world. -/
  | runInstance (i : ProgramInstance α)
  /-- Begin the game. -/
  | start
  /-- Hand on the turn. -/
  | startNextTurn
  /-- End the world. -/
  | terminate

namespace Operation

/-- The command of an operation. -/
def command : Operation α → Command α Unit
  | addWorm worm => do let _ ← Command.addWorm worm
  | addNewWorm program => do let _ ← Command.addNewWorm program
  | addFood food => do let _ ← Command.addFood food
  | addNewFood => do let _ ← Command.addNewFood
  | setProjectile projectile => do let _ ← Command.setProjectile projectile
  | addTeam team => Command.addTeam team
  | joinTeam id team => Command.joinTeam id team
  | removeWorm id => do let _ ← Command.removeWorm id
  | removeFood id => do let _ ← Command.removeFood id
  | removeProjectile => do let _ ← Command.removeProjectile
  | turn id angle => Command.turn id angle
  | selectNextWeapon id => Command.selectNextWeapon id
  | move id => Command.move id
  | fall id => Command.fall id
  | eat id => do let _ ← Command.eat id
  | jump id => Command.jump id
  | jumpWith id timeStep => Command.jumpWith id timeStep
  | fire id yieldPercent => do let _ ← Command.fire id yieldPercent
  | fireAndResolve id yieldPercent timeStep => do
    let _ ← Command.fireAndResolve id yieldPercent timeStep
  | resolve timeStep => do let _ ← Command.resolve timeStep
  | act id action => Command.act id action
  | runProgram id => do let _ ← Command.runProgram id
  | runCurrentProgram => do let _ ← Command.runCurrentProgram
  | runInstance i => do let _ ← Command.runInstance i
  | start => Command.start
  | startNextTurn => Command.startNextTurn
  | terminate => do let _ ← Command.terminate

/-- What enters has been made under a number that was handed out before. -/
def Admissible (ids : IdSupply) : Operation α → Prop
  | addWorm worm => worm.Made ∧ worm.id.value < ids.next
  | addNewWorm program => ∀ i, program = some i → i.Made
  | addFood food => food.id.value < ids.next
  | setProjectile projectile => projectile.id.value < ids.next
  | runInstance i => i.Made
  | _ => True

/-- The way in which worms may pass during an operation. -/
def traffic : Operation α → World.Traffic
  | addWorm _ | addNewWorm _ => .entering
  | _ => .leaving

/-- The operations that leave the turn where it is. -/
def WithinTurn : Operation α → Prop
  | start | startNextTurn | terminate => False
  | _ => True

end Operation

namespace Simulation

/-- One step of a game. -/
inductive Step (s : Simulation α) : Option (Operation α) → Simulation α → Prop where
  /-- An operation is done or refused. -/
  | operate (op : Operation α) : op.Admissible s.ids → Step s (some op) (op.command.carryOut s).2
  /-- Something has happened elsewhere. -/
  | elsewhere {ids : IdSupply} (told : List (Effect α)) : s.ids.next ≤ ids.next →
      Step s none { s with ids, told }

/-- The simulations that a game can come to. -/
inductive Reachable : Simulation α → Prop where
  /-- The game has been set up. -/
  | onGrid {id : WorldId} {grid : TerrainGrid α} {config : GameConfig α} {world : World α}
      (ids : IdSupply) : World.onGrid id grid config = .ok world → Reachable { world, ids }
  /-- The game has gone on. -/
  | step {s s' : Simulation α} {op : Option (Operation α)} : Reachable s → s.Step op s' →
      Reachable s'

/-- The simulation after some operations, done or refused. -/
def after (s : Simulation α) (ops : List (Operation α)) : Simulation α :=
  ops.foldl (fun s op => (op.command.carryOut s).2) s

/-- All of some operations are admissible when their turn comes. -/
def AllAdmissible (s : Simulation α) : List (Operation α) → Prop
  | [] => True
  | op :: ops => op.Admissible s.ids ∧ AllAdmissible (op.command.carryOut s).2 ops

/-- A simulation that comes up in a game comes up after admissible operations too. -/
theorem Reachable.after {s : Simulation α} (h : s.Reachable) {ops : List (Operation α)}
    (hops : s.AllAdmissible ops) : (s.after ops).Reachable := by
  induction ops generalizing s with
  | nil => exact h
  | cons op ops ih => exact ih (h.step (.operate op hops.1)) hops.2

end Simulation

namespace Operation

open Command

/-- **Within a turn only changes happen**, whether the operation is done or refused. -/
theorem changes {s : Simulation α} {op : Operation α} (hs : s.world.Sound)
    (hop : op.Admissible s.ids) (hwithin : op.WithinTurn) :
    s.world.Changes op.traffic (op.command.carryOut s).2.world := by
  have hignore : ∀ {β : Type} {c : Command α β} {traffic}, c.Alters traffic →
      (do let _ ← c : Command α Unit).Alters traffic :=
    fun hc => hc.bind fun _ => alters_pure ()
  have hmade : ∀ id worm, s.world.worm? id = some worm → worm.Made :=
    fun id worm hworm => hs.made worm (World.mem_of_worm? hworm)
  cases op with
  | addWorm worm => exact (hignore (alters_addWorm hop.1)).changes s
  | addNewWorm program => exact (hignore (alters_addNewWorm hop)).changes s
  | addFood food => exact (hignore (alters_addFood food)).changes s
  | addNewFood => exact (hignore alters_addNewFood).changes s
  | setProjectile projectile => exact (hignore (alters_setProjectile projectile)).changes s
  | addTeam team => exact (alters_addTeam team).changes s
  | joinTeam id team => exact (alters_joinTeam id team).changes s
  | removeWorm id => exact (hignore (alters_removeWorm id)).changes s
  | removeFood id => exact (hignore (alters_removeFood id)).changes s
  | removeProjectile => exact (hignore alters_removeProjectile).changes s
  | turn id angle => exact (does_turn id angle).alters.changes s
  | selectNextWeapon id => exact (does_selectNextWeapon id).alters.changes s
  | move id => exact (does_move id).alters.changes s
  | fall id => exact (does_fall id).alters.changes s
  | eat id => exact (hignore (does_eat id).alters).changes s
  | jump id => exact (does_jump id).alters.changes s
  | jumpWith id timeStep => exact (does_jumpWith id timeStep).alters.changes s
  | fire id yieldPercent => exact (hignore (alters_fire id yieldPercent)).changes s
  | fireAndResolve id yieldPercent timeStep =>
    exact (hignore (alters_fireAndResolve id yieldPercent timeStep)).changes s
  | resolve timeStep => exact (hignore (alters_resolve timeStep)).changes s
  | act id action => exact (alters_act id action).changes s
  | runProgram id =>
    exact (ends_bind.mpr ((alters_runProgram id (hmade id)).mono (fun _ _ h => ends_pure.mpr h)
      fun _ _ h => h)).of_both
  | runCurrentProgram =>
    exact (ends_bind.mpr ((alters_runCurrentProgram hmade).mono (fun _ _ h => ends_pure.mpr h)
      fun _ _ h => h)).of_both
  | runInstance i => exact (hignore (alters_runInstance hop)).changes s
  | start | startNextTurn | terminate => exact hwithin.elim

end Operation

/-! ### Turns -/

namespace Command

variable {s : Simulation α}

/-- What the beginning of the game comes to. -/
theorem ends_start {done : Unit → Simulation α → Prop} {refused : Error α → Simulation α → Prop} :
    start.Ends s done refused ↔
      (s.world.state = .notStarted →
        (s.world.worms = [] → done () { s with world := { s.world with state := .finished } }) ∧
        (s.world.worms ≠ [] →
          (s.world.RegainsAt 0 → done () { s with world := s.world.withTurn 0 1 }) ∧
          (¬s.world.RegainsAt 0 → refused .overflow s))) ∧
      (s.world.state = .terminated → refused .startTerminated s) ∧
      (s.world.state ≠ .notStarted → s.world.state ≠ .terminated → refused .alreadyStarted s) := by
  simp only [start, ends_bind, ends_world]
  cases hstate : s.world.state with
  | notStarted =>
    cases hworms : s.world.worms with
    | nil => simp [hworms]
    | cons worm worms =>
      rcases s.world.handTurn_eq 0 1 with ⟨hfits, hturn⟩ | ⟨hfits, hturn⟩ <;> simp [hfits, hturn]
  | inProgress _ | finished | terminated => simp

/-- What the end of a turn comes to. -/
theorem ends_startNextTurn {done : Unit → Simulation α → Prop}
    {refused : Error α → Simulation α → Prop} :
    startNextTurn.Ends s done refused ↔
      (∀ turn, s.world.state = .inProgress turn →
        (s.world.isGameOver = true →
          done () { s with world := { s.world with state := .finished } }) ∧
        (s.world.isGameOver = false →
          (s.world.RegainsAt (s.world.nextIndex turn) → done () { s with
            world := s.world.withTurn (s.world.nextIndex turn) (turn.number + 1) }) ∧
          (¬s.world.RegainsAt (s.world.nextIndex turn) → refused .overflow s))) ∧
      ((∀ turn, s.world.state ≠ .inProgress turn) → refused .notInProgress s) := by
  simp only [startNextTurn, ends_bind, ends_world]
  cases hstate : s.world.state with
  | inProgress turn =>
    cases hover : s.world.isGameOver with
    | true => simp
    | false =>
      rcases s.world.handTurn_eq (s.world.nextIndex turn) (turn.number + 1) with
        ⟨hfits, hturn⟩ | ⟨hfits, hturn⟩ <;> simp [hfits, hturn]
  | notStarted | finished | terminated => simp

/-- While the game goes on, the turn is handed to a worm whose hit points can be counted. -/
theorem carryOut_startNextTurn_of_regainsAt {turn : Turn} (hturn : s.world.state = .inProgress turn)
    (hgoes : s.world.isGameOver = false) (hfits : s.world.RegainsAt (s.world.nextIndex turn)) :
    startNextTurn.carryOut s = (.ok (), { s with
      world := s.world.withTurn (s.world.nextIndex turn) (turn.number + 1) }) := by
  refine Ends.of_end (P := fun r => r = _)
    (ends_startNextTurn.mpr ⟨fun turn' hturn' => ?_, fun hnone => absurd hturn (hnone turn)⟩)
  cases hturn.symm.trans hturn'
  exact ⟨fun hover => absurd (hgoes.symm.trans hover) nofun, fun _ =>
    ⟨fun _ => rfl, fun hless => absurd hfits hless⟩⟩

/-- The turn of a worm whose hit points cannot be counted is a crash. -/
theorem carryOut_startNextTurn_of_not_regainsAt {turn : Turn}
    (hturn : s.world.state = .inProgress turn) (hgoes : s.world.isGameOver = false)
    (hless : ¬s.world.RegainsAt (s.world.nextIndex turn)) :
    startNextTurn.carryOut s = (.error .overflow, s) := by
  refine Ends.of_end (P := fun r => r = _)
    (ends_startNextTurn.mpr ⟨fun turn' hturn' => ?_, fun hnone => absurd hturn (hnone turn)⟩)
  cases hturn.symm.trans hturn'
  exact ⟨fun hover => absurd (hgoes.symm.trans hover) nofun, fun _ =>
    ⟨fun hfits => absurd hfits hless, fun _ => rfl⟩⟩

omit [Scalar α] in
/-- What the end of a world comes to. -/
theorem ends_terminate {done : List (Entity α) → Simulation α → Prop}
    {refused : Error α → Simulation α → Prop} :
    terminate.Ends s done refused ↔
      (s.world.isTerminated = true → done [] s) ∧
      (s.world.isTerminated = false → done
        ((s.world.worms.map Entity.worm ++ s.world.food.map Entity.food ++
          (s.world.projectile.map Entity.projectile).toList).map released)
        { s with world := { s.world with
            worms := []
            food := []
            projectile := none
            teams := []
            state := .terminated } }) := by
  simp only [terminate, ends_bind, ends_world]
  cases s.world.isTerminated with
  | true => simp
  | false =>
    simp only [Bool.false_eq_true, if_false, ends_bind, ends_modifyWorld, ends_pure, false_implies,
      forall_const, true_and]

end Command

/-! ### Steps -/

/-- What a step of a game can do to its world. -/
inductive World.Course (w : World α) : Option (Operation α) → World α → Prop where
  /-- The turn stays where it is. -/
  | within {op : Option (Operation α)} {w' : World α} (traffic : Traffic) :
      (op = some .start → w.state = .notStarted → ¬w.RegainsAt 0) → w.Changes traffic w' →
      Course w op w'
  /-- There is nobody to open the game. -/
  | staysEmpty : w.state = .notStarted → w.worms = [] →
      Course w (some .start) { w with state := .finished }
  /-- The first worm opens the game. -/
  | opens : w.state = .notStarted → w.worms ≠ [] → w.RegainsAt 0 →
      Course w (some .start) (w.withTurn 0 1)
  /-- The game is over at the end of a turn. -/
  | isOver {turn : Turn} : w.state = .inProgress turn → w.isGameOver = true →
      Course w (some .startNextTurn) { w with state := .finished }
  /-- The turn is handed on. -/
  | handsOn {turn : Turn} : w.state = .inProgress turn → w.isGameOver = false →
      w.RegainsAt (w.nextIndex turn) →
      Course w (some .startNextTurn) (w.withTurn (w.nextIndex turn) (turn.number + 1))
  /-- The world ends. -/
  | terminates : w.isTerminated = false → Course w (some .terminate)
      { w with
        worms := []
        food := []
        projectile := none
        teams := []
        state := .terminated }

namespace Simulation

variable {s s' : Simulation α} {op : Option (Operation α)}

open Command

/-- **What a step of a game can do**, done or refused. -/
theorem Step.course (h : s.Step op s') (hs : s.world.Sound) : s.world.Course op s'.world := by
  cases h with
  | elsewhere told _ => exact .within .leaving (by simp) (.refl _)
  | operate op hop =>
    by_cases hwithin : op.WithinTurn
    · refine .within op.traffic ?_ (Operation.changes hs hop hwithin)
      rintro ⟨⟩
      exact hwithin.elim
    refine Ends.of_both (P := fun s' => s.world.Course (some op) s'.world) ?_
    cases op with
    | start =>
      refine ends_start.mpr ⟨fun hstate => ⟨.staysEmpty hstate, fun hworms =>
        ⟨.opens hstate hworms, fun hfits => ?_⟩⟩, fun hstate => ?_, fun hstate _ => ?_⟩
      · exact .within .leaving (fun _ _ => hfits) (.refl _)
      · exact .within .leaving (by simp [hstate]) (.refl _)
      · exact .within .leaving (fun _ hbegins => absurd hbegins hstate) (.refl _)
    | startNextTurn =>
      have hstays : s.world.Course (some .startNextTurn) s.world :=
        .within .leaving (by simp) (.refl _)
      exact ends_startNextTurn.mpr ⟨fun turn hstate => ⟨.isOver hstate, fun hgoes =>
        ⟨.handsOn hstate hgoes, fun _ => hstays⟩⟩, fun _ => hstays⟩
    | terminate =>
      simp only [Operation.command, ends_bind, ends_pure]
      exact ends_terminate.mpr ⟨fun _ => .within .leaving (by simp) (.refl _), .terminates⟩
    | _ => exact absurd trivial hwithin

/-- Every step of a game keeps its world sound. -/
theorem Step.sound (h : s.Step op s') (hs : s.world.Sound) : s'.world.Sound := by
  have hcourse := h.course hs
  generalize s'.world = w' at hcourse ⊢
  cases hcourse with
  | within traffic _ hchanges => exact hs.changes hchanges
  | staysEmpty | isOver => exact { hs with turn := by simp }
  | opens _ hworms hfits => exact hs.withTurn 1 (List.length_pos_iff.mpr hworms) hfits
  | handsOn _ hgoes hfits =>
    exact hs.withTurn _ (World.nextIndex_lt _ _ (World.worms_ne_nil_of_isGameOver hgoes)) hfits
  | terminates => exact .of_empty hs.config rfl rfl rfl (by simp)

/-! ### All reachable worlds -/

/-- **All reachable worlds are sound.** -/
theorem Reachable.sound (h : s.Reachable) : s.world.Sound := by
  induction h with
  | onGrid ids h => exact World.Sound.onGrid h
  | step _ hstep ih => exact hstep.sound ih

end Simulation

end WormBattle
