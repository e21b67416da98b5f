import WormBattle.Proofs.World.Registered

/-!
# Closing a world

A world that is terminated hands over all that it lists, each entity once and for good: the worms in
turn order, the rations by their numbers, and the projectile. It is **closed** then
(`World.Closed`): it lists nothing, and has no teams.

Only some operations look at the stage of a world's life. The others are refused by a closed world
because what they are about is not there (`Operation.refuses_closed`). No operation opens a closed
world, so it stays closed however the game goes on (`Simulation.Reachable.releases_once`).
-/

namespace WormBattle

variable {α β γ : Type}

/-- An entity after its world has let go of it for good. -/
def Entity.retired (e : Entity α) : Entity α :=
  e.withBody { e.body with membership := .terminated }

namespace World

/-- A terminated world has nothing left. -/
structure Closed (w : World α) : Prop where
  worms : w.worms = []
  food : w.food = []
  projectile : w.projectile = none
  teams : w.teams = []
  state : w.state = .terminated

/-- The world after its end. -/
def close (w : World α) : World α :=
  { w with worms := [], food := [], projectile := none, teams := [], state := .terminated }

private theorem closed_close (w : World α) : w.close.Closed :=
  ⟨rfl, rfl, rfl, rfl, rfl⟩

/-- A registry in order has nothing to say about a terminated world. -/
theorem Registered.isClosed {w : World α} (h : w.Registered) (hterminated : w.isTerminated = true) :
    w.Closed := by
  obtain ⟨hlisted, hteams⟩ := h.closed hterminated
  simp only [listed, List.append_eq_nil_iff, List.map_eq_nil_iff, Option.toList_eq_nil_iff,
    Option.map_eq_none_iff] at hlisted
  obtain ⟨⟨hworms, hfood⟩, hprojectile⟩ := hlisted
  exact ⟨hworms, hfood, hprojectile, hteams, by simpa [isTerminated] using hterminated⟩

namespace Closed

variable {w : World α} (h : w.Closed)

include h

private theorem close_eq : w.close = w := by
  obtain ⟨id, grid, config, worms, food, projectile, teams, random, state⟩ := w
  obtain ⟨rfl, rfl, rfl, rfl, rfl⟩ := h
  rfl

private theorem isTerminated : w.isTerminated = true := by
  rw [World.isTerminated, h.state]
  rfl

private theorem listed_eq : w.listed = [] := by
  rw [listed, h.worms, h.food, h.projectile]
  rfl

private theorem worm?_eq (id : EntityId) : w.worm? id = none := by
  rw [worm?, h.worms]
  rfl

private theorem food?_eq (id : EntityId) : w.food? id = none := by
  rw [food?, h.food]
  rfl

private theorem team?_eq (name : String) : w.team? name = none := by
  rw [team?, h.teams]
  rfl

private theorem currentWorm?_eq : w.currentWorm? = none := by
  rw [currentWorm?, h.state]

private theorem checkOpen_eq : w.checkOpen = .error (.worldTerminated w.id) := by
  rw [checkOpen, h.isTerminated]
  rfl

end Closed

end World

/-! ### Refusals -/

namespace Command

/-- A command is refused and changes nothing. -/
def Refuses (c : Command α β) (s : Simulation α) : Prop :=
  ∃ e, c.carryOut s = (.error e, s)

variable {c : Command α β} {s : Simulation α} {e : Error α} {id : EntityId}

/-- A command whose first part is refused. -/
theorem Refuses.bind (h : c.Refuses s) (f : β → Command α γ) : (c >>= f).Refuses s := by
  obtain ⟨e, hc⟩ := h
  exact ⟨e, by rw [carryOut_bind, hc]⟩

private theorem refuses_throw (e : Error α) (s : Simulation α) :
    (throw e : Command α β).Refuses s :=
  ⟨e, rfl⟩

private theorem refuses_lift {value : Except (Error α) β} (h : value = .error e) :
    (liftM value : Command α β).Refuses s :=
  ⟨e, by rw [h]; rfl⟩

private theorem Refuses.of_lift {value : Except (Error α) β} {f : β → Command α γ}
    (h : ∀ v, value = .ok v → (f v).Refuses s) : (liftM value >>= f).Refuses s := by
  cases hvalue : value with
  | ok v => exact h v hvalue
  | error e => exact (refuses_lift rfl).bind f

private theorem Refuses.of_world {f : World α → Command α β} (h : (f s.world).Refuses s) :
    (world >>= f).Refuses s :=
  h

private theorem refuses_requireWorm (h : s.world.worm? id = none) : (requireWorm id).Refuses s :=
  refuses_lift (by rw [World.requireWorm, h])

end Command

namespace Operation

/-- The operations that are about something in the world. The world ends without objection, and a
program may be run on any world. -/
def NeedsOpen : Operation α → Prop
  | terminate | runInstance _ => False
  | _ => True

end Operation

namespace World.Closed

variable {w : World α}

private theorem checkRegistrable_eq (h : w.Closed) (body : Body α) :
    w.checkRegistrable body = .error (.worldTerminated w.id) := by
  rw [checkRegistrable, h.checkOpen_eq]
  rfl

private theorem kindOf_eq (h : w.Closed) (id : EntityId) : w.kindOf id = none := by
  rw [kindOf, h.worm?_eq, h.food?_eq]
  rfl

variable [Scalar α]

private theorem canFall_eq (h : w.Closed) (id : EntityId) : w.canFall id = false := by
  rw [canFall, h.worm?_eq]

private theorem jumpTarget?_eq (h : w.Closed) (id : EntityId) (timeStep : α) :
    w.jumpTarget? id timeStep = none := by
  rw [jumpTarget?, h.worm?_eq]

private theorem planMove_eq (h : w.Closed) (id : EntityId) :
    w.planMove id = .error (.notAWorm id) := by
  rw [planMove, plannedMove, requireWorm, h.worm?_eq]
  rfl

private theorem fireCost_eq (h : w.Closed) (id : EntityId) (yieldPercent : Nat) :
    ∃ e, w.fireCost id yieldPercent = .error e := by
  rw [fireCost, requireWorm, h.worm?_eq]
  cases checkYield yieldPercent with
  | ok _ => exact ⟨_, rfl⟩
  | error e => exact ⟨e, rfl⟩

end World.Closed

/-! ### Closed worlds -/

variable [Scalar α]

namespace Command

variable {s : Simulation α} (h : s.world.Closed)

include h

private theorem refuses_turn (id : EntityId) (angle : α) : (turn id angle).Refuses s :=
  (refuses_requireWorm (h.worm?_eq id)).bind _

omit [Scalar α] in
private theorem refuses_selectNextWeapon (id : EntityId) : (selectNextWeapon id).Refuses s :=
  (refuses_requireWorm (h.worm?_eq id)).bind _

private theorem refuses_move (id : EntityId) : (move id).Refuses s :=
  .of_world ((refuses_lift (h.planMove_eq id)).bind _)

private theorem refuses_jumpWith (id : EntityId) (timeStep : α) :
    (jumpWith id timeStep).Refuses s := by
  refine .of_lift fun _ _ => .of_world ?_
  rw [h.jumpTarget?_eq]
  exact refuses_throw _ s

private theorem refuses_aim (id : EntityId) (yieldPercent : Nat) :
    (aim id yieldPercent).Refuses s := by
  obtain ⟨e, he⟩ := h.fireCost_eq id yieldPercent
  exact .of_world ((refuses_lift he).bind _)

private theorem refuses_act (id : EntityId) (action : Action α) : (act id action).Refuses s := by
  cases action with
  | turn angle => exact refuses_turn h id angle
  | move => exact refuses_move h id
  | jump => exact .of_world (refuses_jumpWith h id _)
  | fire yieldPercent => exact .of_world (((refuses_aim h id yieldPercent).bind _).bind _)
  | toggleWeapon => exact refuses_selectNextWeapon h id

end Command

namespace Operation

open Command

variable {s : Simulation α} {op : Operation α}

/-- **A closed world refuses all operations that are about something in it**, and changes in
nothing. -/
theorem refuses_closed (h : s.world.Closed) (hop : op.NeedsOpen) : op.command.Refuses s := by
  have hworm : ∀ id, (requireWorm id).Refuses s := fun id => refuses_requireWorm (h.worm?_eq id)
  have hregister : ∀ (body : Body α) {β : Type} (f : World α → Unit → Command α β),
      (do let w ← world; f w (← w.checkRegistrable body)).Refuses s := fun body _ f =>
    .of_world ((refuses_lift (h.checkRegistrable_eq body)).bind _)
  cases op with
  | addWorm worm => exact (hregister _ _).bind _
  | addFood food => exact (hregister _ _).bind _
  | setProjectile p => exact (hregister _ _).bind _
  | addNewWorm program => exact (Refuses.of_world ((refuses_lift h.checkOpen_eq).bind _)).bind _
  | addNewFood => exact (Refuses.of_world ((refuses_lift h.checkOpen_eq).bind _)).bind _
  | addTeam team => exact .of_world ((refuses_lift h.checkOpen_eq).bind _)
  | joinTeam id team =>
    refine .of_world ?_
    rw [h.team?_eq]
    exact ⟨_, rfl⟩
  | removeWorm id =>
    refine Refuses.bind (.of_world ?_) _
    rw [h.worms]
    exact refuses_throw _ s
  | removeFood id =>
    refine Refuses.bind (.of_world ?_) _
    rw [h.food?_eq]
    exact refuses_throw _ s
  | removeProjectile =>
    refine Refuses.bind (.of_world ?_) _
    rw [h.projectile]
    exact refuses_throw _ s
  | turn id angle => exact refuses_turn h id angle
  | selectNextWeapon id => exact refuses_selectNextWeapon h id
  | move id => exact refuses_move h id
  | fall id =>
    refine .of_world ?_
    rw [h.canFall_eq]
    exact ⟨_, rfl⟩
  | eat id => exact ((hworm id).bind _).bind _
  | jump id => exact .of_world (refuses_jumpWith h id _)
  | jumpWith id timeStep => exact refuses_jumpWith h id timeStep
  | fire id yieldPercent => exact ((refuses_aim h id yieldPercent).bind _).bind _
  | fireAndResolve id yieldPercent timeStep =>
    exact ((refuses_aim h id yieldPercent).bind _).bind _
  | resolve timeStep =>
    have hnone : s.world.requireProjectile = .error .noProjectileInFlight := by
      rw [World.requireProjectile, h.projectile]
    exact (Refuses.of_world ((refuses_lift hnone).bind _)).bind _
  | act id action => exact refuses_act h id action
  | runProgram id => exact ((hworm id).bind _).bind _
  | runCurrentProgram =>
    refine Refuses.bind (.of_world ?_) _
    rw [h.currentWorm?_eq]
    exact refuses_throw _ s
  | start =>
    refine .of_world ?_
    rw [h.state]
    exact refuses_throw _ s
  | startNextTurn =>
    refine .of_world ?_
    rw [h.state]
    exact refuses_throw _ s
  | terminate | runInstance _ => exact hop.elim

end Operation

namespace Command

variable {s : Simulation α}

/-- A program cannot be run on a closed world. -/
theorem carryOut_runInstance_closed (h : s.world.Closed) (i : ProgramInstance α) :
    ∃ e, (runInstance i).carryOut s = (.ok (.error e, i), s) := by
  obtain ⟨e, he⟩ : ∃ e, i.readyWorm s = .error e := by
    cases hready : i.readyWorm s with
    | error e => exact ⟨e, rfl⟩
    | ok worm =>
      obtain ⟨-, -, -, hkind⟩ := ProgramInstance.readyWorm_eq_ok_iff.mp hready
      cases (h.kindOf_eq worm).symm.trans hkind
  have hrun : i.run s = ⟨.error e, i, s, []⟩ := ProgramInstance.runWith_refused he
  refine ⟨e, ?_⟩
  show (Except.ok ((s.runInstance i).1, (s.runInstance i).2.1), (s.runInstance i).2.2) = _
  rw [Simulation.runInstance, hrun]
  cases i.observed <;> rfl

omit [Scalar α] in
private theorem released_eq_retired {e : Entity α} {world : WorldId}
    (h : e.body.membership = .member world) : released e = e.retired := by
  have hbody : e.body.detach.terminate = .ok { e.body with membership := .terminated } :=
    Body.terminate_detach h
  rw [released, hbody]
  rfl

omit [Scalar α] in
/-- The end of a world whose registry is in order. -/
theorem carryOut_terminate (h : s.world.Registered) : terminate.carryOut s =
    (.ok (s.world.listed.map Entity.retired), { s with world := s.world.close }) := by
  refine Ends.of_end (P := fun r => r = (.ok (s.world.listed.map Entity.retired),
    { s with world := s.world.close })) (ends_terminate.mpr ⟨fun hterminated => ?_, fun _ => ?_⟩)
  · have hclosed := h.isClosed hterminated
    rw [hclosed.listed_eq, hclosed.close_eq]
    rfl
  · have hreleased : s.world.listed.map released = s.world.listed.map Entity.retired :=
      List.map_congr_left fun e he => released_eq_retired (h.member e he)
    rw [← hreleased]
    rfl

end Command

namespace Simulation

open Command World

variable {s : Simulation α}

/-- **Whatever a world lists is released once**, when the world is terminated, and the world stays
closed whatever comes after. -/
theorem Reachable.releases_once (hs : s.Reachable) :
    let held := s.world.listed.map Entity.retired
    let s' : Simulation α := { s with world := s.world.close }
    terminate.carryOut s = (.ok held, s') ∧ (held.map Entity.id).Nodup ∧
      FoodOrdered s.world.food ∧ (∀ e ∈ held, e.body.membership = .terminated) ∧
      ∀ s'', s'.Later s'' → s''.world.Closed ∧ terminate.carryOut s'' = (.ok [], s'') ∧
        (∀ op : Operation α, op.NeedsOpen → op.command.Refuses s'') ∧
        ∀ i, ∃ e, (Command.runInstance i).carryOut s'' = (.ok (.error e, i), s'') := by
  intro held s'
  have hr := hs.registered
  have hend : terminate.carryOut s = (.ok held, s') := carryOut_terminate hr
  have hids : held.map Entity.id = s.world.ids := by
    rw [List.map_map]
    exact List.map_congr_left fun e _ => by cases e <;> rfl
  refine ⟨hend, hids ▸ hr.nodup, hr.ordered, ?_, fun s'' hlater => ?_⟩
  · rw [List.forall_mem_map]
    exact fun e _ => by cases e <;> rfl
  · have hreachable : s'.Reachable := by
      have hstep : s.Step (some .terminate) _ := .operate .terminate trivial
      have hafter : (Operation.terminate.command.carryOut s).2 = s' := by
        rw [Operation.command, carryOut_bind, hend]
        rfl
      exact hafter ▸ hs.step hstep
    have hr' := (hlater.reachable hreachable).registered
    have hclosed : s''.world.Closed :=
      hr'.isClosed (hlater.isTerminated hreachable (closed_close s.world).isTerminated)
    refine ⟨hclosed, ?_, fun op hop => Operation.refuses_closed hclosed hop,
      carryOut_runInstance_closed hclosed⟩
    rw [carryOut_terminate hr', hclosed.listed_eq, hclosed.close_eq]
    rfl

/-- Everything is handed over at once, and nothing can be added after that. -/
theorem releases_once_crowded : let s' := { crowded with world := crowded.world.close }
    terminate.carryOut crowded = (.ok (crowded.world.listed.map Entity.retired), s') ∧
      (crowded.world.listed.map Entity.retired).map Entity.id = [⟨1⟩, ⟨2⟩, ⟨3⟩] ∧
      terminate.carryOut s' = (.ok [], s') ∧
      (Operation.addTeam ⟨"Blue"⟩).command.Refuses s' := by
  obtain ⟨hend, -, -, -, hlater⟩ := reachable_crowded.releases_once
  obtain ⟨-, hagain, hrefuses, -⟩ := hlater _ .refl
  exact ⟨hend, by decide +kernel, hagain, hrefuses _ trivial⟩

end Simulation

end WormBattle
