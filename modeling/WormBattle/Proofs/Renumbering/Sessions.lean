import WormBattle.Proofs.Renumbering.Commands
import WormBattle.Proofs.Renumbering.Texts
import WormBattle.Proofs.World.Reachable

/-!
# Sessions under other numbers

A **session** is what a caller does with a world, request by request: entities are made, and the
world is operated. Whatever a request comes to, the session goes on. Two sessions that differ only
in the number at which the supply of numbers stands, and in all numbers that are passed by as much,
differ only in the numbers (`Simulation.session_shift`): what they answer, what they refuse and with
which words, what onlookers are told and how the worlds stand in the end
(`Simulation.sessions_alike`).
-/

namespace WormBattle

variable {α : Type} {d : Nat}

/-! ### Answers and requests -/

/-- What a caller is answered. -/
inductive Answer (α : Type) where
  /-- Done. -/
  | done
  /-- An entity is in the world. -/
  | entered (id : EntityId)
  /-- An entity is handed over. -/
  | handed (e : Entity α)
  /-- Entities are handed over. -/
  | handedAll (entities : List (Entity α))
  /-- So many. -/
  | count (n : Nat)
  /-- A flight has ended. -/
  | landed (impact : Impact α)
  /-- The program of a worm has run, if the worm has one. -/
  | played (outcome : Option Outcome)
  /-- A program has run. -/
  | ran (result : Except (Error α) Outcome) (i : ProgramInstance α)

/-- An answer with all that it holds shifted. -/
def Answer.shift (d : Nat) : Answer α → Answer α
  | done => done
  | entered id => entered (id.shift d)
  | handed e => handed (e.shift d)
  | handedAll entities => handedAll (entities.map (Entity.shift d))
  | count n => count n
  | landed impact => landed (impact.shift d)
  | played outcome => played outcome
  | ran result i => ran (shiftRefusal d result) (i.shift d)

/-- What a caller asks for. -/
inductive Request (α : Type) where
  /-- Make a worm. -/
  | makeWorm (name : String) (position : Position α) (direction radius : α)
    (config : WormConfig α)
  /-- Make a ration. -/
  | makeFood (position : Position α) (config : FoodConfig α)
  /-- Make a projectile. -/
  | makeProjectile (position : Position α) (direction : α) (weapon : WeaponKind)
    (yieldPercent : Nat) (config : WeaponConfig α) (owner : Option EntityId)
  /-- Operate the world. -/
  | operate (op : Operation α)
  /-- Play a battle of at most so many turns. -/
  | play (maxTurns : Nat)

/-- An operation with all that is passed to it shifted. -/
def Operation.shift (d : Nat) : Operation α → Operation α
  | addWorm worm => addWorm (worm.shift d)
  | addNewWorm program => addNewWorm (program.map (ProgramInstance.shift d))
  | addFood food => addFood (food.shift d)
  | addNewFood => addNewFood
  | setProjectile projectile => setProjectile (projectile.shift d)
  | addTeam team => addTeam team
  | joinTeam id team => joinTeam (id.shift d) team
  | removeWorm id => removeWorm (id.shift d)
  | removeFood id => removeFood (id.shift d)
  | removeProjectile => removeProjectile
  | turn id angle => turn (id.shift d) angle
  | selectNextWeapon id => selectNextWeapon (id.shift d)
  | move id => move (id.shift d)
  | fall id => fall (id.shift d)
  | eat id => eat (id.shift d)
  | jump id => jump (id.shift d)
  | jumpWith id timeStep => jumpWith (id.shift d) timeStep
  | fire id yieldPercent => fire (id.shift d) yieldPercent
  | fireAndResolve id yieldPercent timeStep => fireAndResolve (id.shift d) yieldPercent timeStep
  | resolve timeStep => resolve timeStep
  | act id action => act (id.shift d) action
  | runProgram id => runProgram (id.shift d)
  | runCurrentProgram => runCurrentProgram
  | runInstance i => runInstance (i.shift d)
  | start => start
  | startNextTurn => startNextTurn
  | terminate => terminate

/-- A request with all that is passed to it shifted. -/
def Request.shift (d : Nat) : Request α → Request α
  | makeWorm name position direction radius config =>
    makeWorm name position direction radius config
  | makeFood position config => makeFood position config
  | makeProjectile position direction weapon yieldPercent config owner =>
    makeProjectile position direction weapon yieldPercent config (owner.map (EntityId.shift d))
  | operate op => operate (op.shift d)
  | play maxTurns => play maxTurns

variable [Scalar α]

/-- The command of an operation, with its answer. -/
def Operation.answer : Operation α → Command α (Answer α)
  | addWorm worm => return .entered (← Command.addWorm worm)
  | addNewWorm program => return .entered (← Command.addNewWorm program)
  | addFood food => return .entered (← Command.addFood food)
  | addNewFood => return .entered (← Command.addNewFood)
  | setProjectile projectile => return .entered (← Command.setProjectile projectile)
  | addTeam team => do Command.addTeam team; return .done
  | joinTeam id team => do Command.joinTeam id team; return .done
  | removeWorm id => return .handed (.worm (← Command.removeWorm id))
  | removeFood id => return .handed (.food (← Command.removeFood id))
  | removeProjectile => return .handed (.projectile (← Command.removeProjectile))
  | turn id angle => do Command.turn id angle; return .done
  | selectNextWeapon id => do Command.selectNextWeapon id; return .done
  | move id => do Command.move id; return .done
  | fall id => do Command.fall id; return .done
  | eat id => return .count (← Command.eat id)
  | jump id => do Command.jump id; return .done
  | jumpWith id timeStep => do Command.jumpWith id timeStep; return .done
  | fire id yieldPercent => return .entered (← Command.fire id yieldPercent)
  | fireAndResolve id yieldPercent timeStep =>
    return .landed (← Command.fireAndResolve id yieldPercent timeStep)
  | resolve timeStep => return .landed (← Command.resolve timeStep)
  | act id action => do Command.act id action; return .done
  | runProgram id => return .played (← Command.runProgram id)
  | runCurrentProgram => return .played (← Command.runCurrentProgram)
  | runInstance i => do
    let (result, i) ← Command.runInstance i
    return .ran result i
  | start => do Command.start; return .done
  | startNextTurn => do Command.startNextTurn; return .done
  | terminate => return .handedAll (← Command.terminate)

/-- The command of a request, with its answer. -/
def Request.answer : Request α → Command α (Answer α)
  | makeWorm name position direction radius config =>
    return .handed (.worm (← Command.mint (Worm.make name position direction radius config)))
  | makeFood position config => return .handed (.food (← Command.mint (Food.make position config)))
  | makeProjectile position direction weapon yieldPercent config owner =>
    return .handed (.projectile (← Command.mint
      (Projectile.make position direction weapon yieldPercent config owner)))
  | operate op => op.answer
  | play maxTurns => return .count (← Command.play maxTurns)

/-- Apart from the answer, an operation is its command. -/
theorem Operation.carryOut_command (op : Operation α) (s : Simulation α) :
    op.command.carryOut s =
      ((op.answer.carryOut s).1.map fun _ => (), (op.answer.carryOut s).2) := by
  have hanswered : ∀ {β : Type} (c : Command α β) (f : β → Answer α),
      (do let _ ← c : Command α Unit).carryOut s =
        (((do return f (← c)).carryOut s).1.map fun _ => (),
          ((do return f (← c)).carryOut s).2) := by
    intro β c f
    rw [Command.carryOut_bind, Command.carryOut_bind]
    rcases c.carryOut s with ⟨_ | _, _⟩ <;> rfl
  have hdone : ∀ c : Command α Unit, c.carryOut s =
      (((c >>= fun _ => return (.done : Answer α)).carryOut s).1.map fun _ => (),
        ((c >>= fun _ => return (.done : Answer α)).carryOut s).2) := by
    intro c
    rw [Command.carryOut_bind]
    rcases c.carryOut s with ⟨_ | _, _⟩ <;> rfl
  cases op with
  | addWorm | addNewWorm | addFood | addNewFood | setProjectile | removeWorm | removeFood
  | removeProjectile | eat | fire | fireAndResolve | resolve | runProgram | runCurrentProgram
  | terminate => exact hanswered _ _
  | runInstance i => exact hanswered (Command.runInstance i) fun ran => .ran ran.1 ran.2
  | _ => exact hdone _

open Command (Shifts shifts_pure)

/-- An operation does and answers the same under other numbers. -/
theorem Operation.shifts_answer (op : Operation α) :
    op.answer.Shifts d (Answer.shift d) (op.shift d).answer := by
  cases op with
  | addWorm worm => exact (Command.shifts_addWorm worm).bind fun _ => shifts_pure rfl
  | addNewWorm program => exact (Command.shifts_addNewWorm program).bind fun _ => shifts_pure rfl
  | addFood food => exact (Command.shifts_addFood food).bind fun _ => shifts_pure rfl
  | addNewFood => exact Command.shifts_addNewFood.bind fun _ => shifts_pure rfl
  | setProjectile projectile =>
    exact (Command.shifts_setProjectile projectile).bind fun _ => shifts_pure rfl
  | addTeam team => exact (Command.shifts_addTeam team).bind fun _ => shifts_pure rfl
  | joinTeam id team => exact (Command.shifts_joinTeam id team).bind fun _ => shifts_pure rfl
  | removeWorm id => exact (Command.shifts_removeWorm id).bind fun _ => shifts_pure rfl
  | removeFood id => exact (Command.shifts_removeFood id).bind fun _ => shifts_pure rfl
  | removeProjectile => exact Command.shifts_removeProjectile.bind fun _ => shifts_pure rfl
  | turn id angle => exact (Command.shifts_turn id angle).bind fun _ => shifts_pure rfl
  | selectNextWeapon id =>
    exact (Command.shifts_selectNextWeapon id).bind fun _ => shifts_pure rfl
  | move id => exact (Command.shifts_move id).bind fun _ => shifts_pure rfl
  | fall id => exact (Command.shifts_fall id).bind fun _ => shifts_pure rfl
  | eat id => exact (Command.shifts_eat id).bind fun _ => shifts_pure rfl
  | jump id => exact (Command.shifts_jump id).bind fun _ => shifts_pure rfl
  | jumpWith id timeStep =>
    exact (Command.shifts_jumpWith id timeStep).bind fun _ => shifts_pure rfl
  | fire id yieldPercent =>
    exact (Command.shifts_fire id yieldPercent).bind fun _ => shifts_pure rfl
  | fireAndResolve id yieldPercent timeStep =>
    exact (Command.shifts_fireAndResolve id yieldPercent timeStep).bind fun _ => shifts_pure rfl
  | resolve timeStep => exact (Command.shifts_resolve timeStep).bind fun _ => shifts_pure rfl
  | act id action => exact (Command.shifts_act id action).bind fun _ => shifts_pure rfl
  | runProgram id => exact (Command.shifts_runProgram id).bind fun _ => shifts_pure rfl
  | runCurrentProgram => exact Command.shifts_runCurrentProgram.bind fun _ => shifts_pure rfl
  | runInstance i => exact (Command.shifts_runInstance i).bind fun _ => shifts_pure rfl
  | start => exact Command.shifts_start.bind fun _ => shifts_pure rfl
  | startNextTurn => exact Command.shifts_startNextTurn.bind fun _ => shifts_pure rfl
  | terminate => exact Command.shifts_terminate.bind fun _ => shifts_pure rfl

/-- A request does and answers the same under other numbers. -/
theorem Request.shifts_answer (request : Request α) :
    request.answer.Shifts d (Answer.shift d) (request.shift d).answer := by
  cases request with
  | makeWorm name position direction radius config =>
    refine .bind (Command.shifts_mint fun id => ?_) fun worm => shifts_pure rfl
    exact Worm.make_shift name position direction radius config id
  | makeFood position config =>
    refine .bind (Command.shifts_mint fun id => ?_) fun food => shifts_pure rfl
    exact Food.make_shift position config id
  | makeProjectile position direction weapon yieldPercent config owner =>
    refine .bind (Command.shifts_mint fun id => ?_) fun projectile => shifts_pure rfl
    exact Projectile.make_shift position direction weapon yieldPercent config owner id
  | operate op => exact op.shifts_answer
  | play maxTurns => exact (Command.shifts_play maxTurns).bind fun _ => shifts_pure rfl

/-! ### Sessions -/

namespace Simulation

/-- What a caller is answered, request by request, and the simulation in the end. -/
def session (s : Simulation α) :
    List (Request α) → List (Except (Error α) (Answer α)) × Simulation α
  | [] => ([], s)
  | request :: rest =>
    let answered := request.answer.carryOut s
    let others := answered.2.session rest
    (answered.1 :: others.1, others.2)

/-- **A session goes the same way under other numbers.** -/
theorem session_shift (s : Simulation α) (requests : List (Request α)) :
    (s.shift d).session (requests.map (Request.shift d)) =
      ((s.session requests).1.map (shiftResult d (Answer.shift d)),
        (s.session requests).2.shift d) := by
  induction requests generalizing s with
  | nil => rfl
  | cons request rest ih =>
    have hanswer := request.shifts_answer (d := d) s
    rw [List.map_cons, session, session, hanswer, ih]
    rfl

end Simulation

/-! ### Worlds that are alike -/

/-- Two worlds in which the same is going on under shifted numbers. -/
structure World.Alike (d : Nat) (w w' : World α) : Prop where
  state : w'.state = w.state
  turnNumber : w'.turnNumber? = w.turnNumber?
  current : w'.currentWorm? = w.currentWorm?.map (Worm.shift d)
  isGameOver : w'.isGameOver = w.isGameOver
  winner : w'.winner? = w.winner?
  random : w'.random = w.random
  teams : w'.teams = w.teams
  worms : w'.worms = w.worms.map (Worm.shift d)
  food : w'.food = w.food.map (Food.shift d)
  projectile : w'.projectile = w.projectile.map (Projectile.shift d)
  /-- The worms have the same names, teams, places, sizes, directions and points. -/
  summaries : w'.worms.map Worm.summary = w.worms.map Worm.summary
  /-- Their programs are as far. -/
  phases : w'.worms.map (fun worm => worm.program.map ProgramInstance.phase) =
    w.worms.map fun worm => worm.program.map ProgramInstance.phase
  view : w.view.Shifts d w'.view
  contains : ∀ entity, w'.contains (entity.shift d) = w.contains entity
  teamMembers : ∀ team, w'.teamMembers team = (w.teamMembers team).map (EntityId.shift d)
  locationOf : ∀ worm, w'.locationOf (worm.shift d) = shiftRefusal d (w.locationOf worm)
  plannedMove : ∀ worm, w'.plannedMove (worm.shift d) = shiftRefusal d (w.plannedMove worm)
  moveCost : ∀ worm target,
    w'.moveCost (worm.shift d) target = shiftRefusal d (w.moveCost worm target)
  canMove : ∀ worm, w'.canMove (worm.shift d) = w.canMove worm
  canFall : ∀ worm, w'.canFall (worm.shift d) = w.canFall worm
  canJump : ∀ worm, w'.canJump (worm.shift d) = w.canJump worm
  jumpTime : ∀ worm timeStep,
    w'.jumpTime (worm.shift d) timeStep = shiftRefusal d (w.jumpTime worm timeStep)
  projectileTime : ∀ timeStep,
    w'.projectileTime timeStep = shiftRefusal d (w.projectileTime timeStep)
  actionPoints : ∀ worm, w'.actionPoints (worm.shift d) = shiftRefusal d (w.actionPoints worm)
  actionCost : ∀ worm action,
    w'.actionCost (worm.shift d) action = shiftRefusal d (w.actionCost worm action)

private theorem World.alike_shift (w : World α) : w.Alike d (w.shift d) where
  state := rfl
  turnNumber := rfl
  current := w.currentWorm?_shift
  isGameOver := w.isGameOver_shift
  winner := w.winner?_shift
  random := rfl
  teams := rfl
  worms := rfl
  food := rfl
  projectile := rfl
  summaries := List.map_map ..
  phases := by
    rw [worms_shift, List.map_map]
    refine List.map_congr_left fun worm _ => ?_
    show (worm.program.map _).map _ = _
    rw [Option.map_map]
    rfl
  view := w.view_shift
  contains := w.contains_shift
  teamMembers := w.teamMembers_shift
  locationOf := w.locationOf_shift
  plannedMove := w.plannedMove_shift
  moveCost := w.moveCost_shift
  canMove := w.canMove_shift
  canFall := w.canFall_shift
  canJump := w.canJump_shift
  jumpTime := w.jumpTime_shift
  projectileTime := w.projectileTime_shift
  actionPoints := w.actionPoints_shift
  actionCost := w.actionCost_shift

namespace Simulation

/-- **Where the numbers begin makes no difference.** A session in a new world, and the same session
with all numbers shifted and with the supply of numbers as much further on, come to the same. Where
a caller passes a program, the numbers that are written in it are shifted. -/
theorem sessions_alike {id : WorldId} {grid : TerrainGrid Float} {config : GameConfig Float}
    {world : World Float} (h : World.onGrid id grid config = .ok world) (a d : Nat)
    (requests : List (Request Float)) :
    let run := ({ world, ids := ⟨a⟩ } : Simulation Float).session requests
    let run' := ({ world, ids := ⟨a + d⟩ } : Simulation Float).session
      (requests.map (Request.shift d))
    run'.1 = run.1.map (shiftResult d (Answer.shift d)) ∧
    (∀ e : Error Float, (e.shift d).kind = e.kind ∧
      SameText d e.entity? e.message (e.shift d).message) ∧
    (∀ (program : Program Float) (budget : Nat) (observed : Bool),
      ProgramInstance.of (program.shift d) budget observed =
        (ProgramInstance.of program budget observed).shift d) ∧
    run.2.world.Alike d run'.2.world ∧
    run'.2.ids = run.2.ids.shift d ∧
    List.Forall₂ (Event.Shifts d) (EventLog.report {} Value.text run.2.effects).events
      (EventLog.report {} Value.text run'.2.effects).events ∧
    ∀ v : Value Float, SameText d v.entity? v.text (v.shift d).text := by
  obtain ⟨-, rfl⟩ := World.onGrid_eq_ok_iff.mp h
  intro run run'
  have hrun : run' = (run.1.map (shiftResult d (Answer.shift d)), run.2.shift d) :=
    session_shift { world := World.fresh id grid config, ids := ⟨a⟩ } requests
  have heffects : (run.2.shift d).effects = run.2.effects.map (Effect.shift d) :=
    List.map_reverse.symm
  rw [hrun, heffects]
  refine ⟨rfl, fun e => ⟨e.kind_shift d, e.message_shift⟩, ProgramInstance.of_shift, ?_, rfl, ?_,
    ?_⟩
  · exact run.2.world.alike_shift
  · exact EventLog.report_shift run.2.effects
  · exact Value.text_shift

/-- A ration that enters twice, and one that is not there. -/
def ration : Food Float where
  body :=
    { id := ⟨1⟩
      position := ⟨5, 5⟩
      radius := 0.2
      minRadius := leastRadius
      membership := .detached }

/-- The requests of a caller who is not careful. -/
def careless : List (Request Float) :=
  [.operate (.addFood ration), .operate (.addFood ration), .operate (.removeFood ⟨7⟩)]

/-- The careless caller is told of other numbers where the supply of numbers is further on. -/
theorem sessions_alike_careless : ∃ world : World Float,
    World.onGrid ⟨0⟩ (.empty 10 10) default = .ok world ∧
    (({ world, ids := ⟨42⟩ } : Simulation Float).session (careless.map (Request.shift 41))).1 =
      [.ok (.entered ⟨42⟩), .error (.alreadyHere ⟨42⟩), .error (.notFood ⟨48⟩)] := by
  have hworld : World.onGrid ⟨0⟩ (.empty 10 10) default = .ok (World.fresh ⟨0⟩ (.empty 10 10)
      (default : GameConfig Float)) := World.onGrid_eq_ok_iff.mpr ⟨by decide +kernel, rfl⟩
  refine ⟨_, hworld, ?_⟩
  obtain ⟨hanswers, -⟩ := sessions_alike hworld 1 41 careless
  exact hanswers

end Simulation

end WormBattle
