import Mathlib.Data.List.InsertIdx
import WormBattle.Battle
import WormBattle.Proofs.Renumbering.Plans
import WormBattle.Proofs.World.Carrying

/-!
# Commands under other numbers

A command **shifts** to another one (`Command.Shifts`) if on every shifted simulation the other one
does what the first one does on the simulation, with result, refusal and simulation shifted. There
is a lemma for each form of command, and from these one for each command, up to the run of a worm's
program: given shifted numbers, a command shifts to itself.
-/

namespace WormBattle

variable {α β γ δ ε : Type}

namespace Command

/-- On shifted simulations `c'` does what `c` does, with results shifted by `f`. -/
def Shifts (d : Nat) (f : β → γ) (c : Command α β) (c' : Command α γ) : Prop :=
  ∀ s, c'.carryOut (s.shift d) = (shiftResult d f (c.carryOut s).1, (c.carryOut s).2.shift d)

variable {d : Nat} {f : β → γ}

/-! ### The forms of commands -/

/-- A result that is given back shifts to the shifted result. -/
theorem shifts_pure {b : β} {b' : γ} (h : b' = f b) :
    (pure b : Command α β).Shifts d f (pure b') := by
  subst h
  exact fun _ => rfl

private theorem shifts_throw {e e' : Error α} (h : e' = e.shift d) :
    (throw e : Command α β).Shifts d f (throw e') := by
  subst h
  exact fun _ => rfl

/-- What would come after a refusal does not matter. -/
theorem shifts_throw_bind {e e' : Error α} {k : δ → Command α β} {k' : ε → Command α γ}
    (h : e' = e.shift d) : (throw e >>= k).Shifts d f (throw e' >>= k') := by
  subst h
  exact fun _ => rfl

private theorem shifts_lift {x : Except (Error α) β} {x' : Except (Error α) γ}
    (h : x' = shiftResult d f x) :
    (liftM x : Command α β).Shifts d f (liftM x' : Command α γ) := by
  subst h
  exact fun _ => rfl

/-- Commands in a row shift if the first one does and, for every result of it, the second one
does. -/
theorem Shifts.bind {g : δ → ε} {c : Command α β} {c' : Command α γ} {k : β → Command α δ}
    {k' : γ → Command α ε} (hc : c.Shifts d f c') (hk : ∀ b, (k b).Shifts d g (k' (f b))) :
    (c >>= k).Shifts d g (c' >>= k') := by
  intro s
  rw [carryOut_bind, carryOut_bind, hc s]
  generalize c.carryOut s = ended
  obtain ⟨result, s'⟩ := ended
  cases result with
  | error e => rfl
  | ok b => exact hk b s'

private theorem Shifts.ite {p p' : Prop} [Decidable p] [Decidable p'] {c₁ c₂ : Command α β}
    {c₁' c₂' : Command α γ} (hp : p' ↔ p) (h₁ : c₁.Shifts d f c₁') (h₂ : c₂.Shifts d f c₂') :
    (if p then c₁ else c₂).Shifts d f (if p' then c₁' else c₂') := by
  by_cases h : p
  · rw [if_pos h, if_pos (hp.mpr h)]
    exact h₁
  · rw [if_neg h, if_neg fun h' => h (hp.mp h')]
    exact h₂

private theorem Shifts.tryCatch {c : Command α β} {c' : Command α γ}
    {handler : Error α → Command α β} {handler' : Error α → Command α γ} (hc : c.Shifts d f c')
    (hhandler : ∀ e, (handler e).Shifts d f (handler' (e.shift d))) :
    (tryCatch c handler).Shifts d f (tryCatch c' handler') := by
  intro s
  have hcarried' := hc s
  -- The handler goes on from where the refusal left the simulation.
  rcases hcarried : c.carryOut s with ⟨e | b, s'⟩
  · rw [hcarried] at hcarried'
    rw [carryOut_tryCatch_of_error hcarried, carryOut_tryCatch_of_error hcarried']
    exact hhandler e s'
  · rw [hcarried] at hcarried'
    rw [carryOut_tryCatch_of_ok hcarried, carryOut_tryCatch_of_ok hcarried']
    rfl

private theorem shifts_world : (world : Command α (World α)).Shifts d (World.shift d) world :=
  fun _ => rfl

private theorem shifts_modifyWorld {change change' : World α → World α}
    (h : ∀ w, change' (w.shift d) = (change w).shift d) :
    (modifyWorld change).Shifts d id (modifyWorld change') := by
  intro s
  show (Except.ok (), { s.shift d with world := change' (s.world.shift d) }) = _
  rw [h]
  rfl

private theorem shifts_requireWorm (worm : EntityId) :
    (requireWorm (α := α) worm).Shifts d (Worm.shift d) (requireWorm (worm.shift d)) :=
  shifts_world.bind fun w => shifts_lift (w.requireWorm_shift worm)

private theorem shifts_setWorm (worm : Worm α) :
    (setWorm worm).Shifts d id (setWorm (worm.shift d)) :=
  shifts_modifyWorld fun w => w.setWorm_shift worm

/-- An entity that is made with the next free number is made with the next shifted number. -/
theorem shifts_mint {make : EntityId → Except (Error α) β} {make' : EntityId → Except (Error α) γ}
    (h : ∀ id, make' (id.shift d) = shiftResult d f (make id)) :
    (mint make).Shifts d f (mint make') := by
  intro s
  have hnext : (⟨s.ids.next + d + 1⟩ : IdSupply) = IdSupply.shift d ⟨s.ids.next + 1⟩ :=
    congrArg IdSupply.mk (Nat.add_right_comm s.ids.next d 1)
  have hmint : (s.ids.shift d).mint make' =
      (shiftResult d f (s.ids.mint make).1, (s.ids.mint make).2.shift d) := by
    have hmake : make' ⟨(s.ids.shift d).next⟩ = shiftResult d f (make ⟨s.ids.next⟩) :=
      h ⟨s.ids.next⟩
    rw [IdSupply.mint, IdSupply.mint, hmake]
    cases make ⟨s.ids.next⟩ with
    | error e => rfl
    | ok b => exact congrArg (Prod.mk _) hnext
  exact congrArg (fun minted => (minted.1, { s.shift d with ids := minted.2 })) hmint

/-! ### Entering and leaving -/

/-- A worm that is added is listed at the same place in both worlds. -/
theorem shifts_addWorm (worm : Worm α) :
    (addWorm worm).Shifts d (EntityId.shift d) (addWorm (worm.shift d)) := by
  have henter : ∀ (worm : Worm α) (w : World α), (do
      let body ← worm.body.attach w.id
      modifyWorld fun w => { w with worms := w.worms ++ [{ worm with body }] }
      return worm.id : Command α EntityId).Shifts d (EntityId.shift d) (do
      let body ← (worm.shift d).body.attach (w.shift d).id
      modifyWorld fun w => { w with worms := w.worms ++ [{ worm.shift d with body }] }
      return (worm.shift d).id) := by
    intro worm w
    refine (shifts_lift (worm.body.attach_shift w.id)).bind fun body => ?_
    refine (shifts_modifyWorld fun w => ?_).bind fun _ => shifts_pure rfl
    have hworms : w.worms.map (Worm.shift d) ++ [{ worm.shift d with body := body.shift d }] =
        (w.worms ++ [{ worm with body }]).map (Worm.shift d) := by
      rw [List.map_append]
      rfl
    exact congrArg (fun worms => { w.shift d with worms }) hworms
  refine shifts_world.bind fun w => ?_
  refine (shifts_lift (w.checkRegistrable_shift worm.body)).bind fun _ => ?_
  obtain ⟨body, name, direction, actionPoints, hitPoints, team, weapon, program, config⟩ := worm
  cases team with
  | none => exact henter _ w
  | some team => exact .ite Iff.rfl (shifts_throw_bind rfl) (henter _ w)

/-- A ration that is added is listed at the same place in both worlds, as the order of numbers is
kept. -/
theorem shifts_addFood (food : Food α) :
    (addFood food).Shifts d (EntityId.shift d) (addFood (food.shift d)) := by
  refine shifts_world.bind fun w => ?_
  refine (shifts_lift (w.checkRegistrable_shift food.body)).bind fun _ => ?_
  refine (shifts_lift (food.body.attach_shift w.id)).bind fun body => ?_
  refine (shifts_modifyWorld fun w => ?_).bind fun _ => shifts_pure rfl
  exact congrArg (fun food => { w.shift d with food })
    (World.insertFood_shift { food with body } w.food)

/-- Taking the projectile out of the world shifts. -/
theorem shifts_removeProjectile :
    (removeProjectile (α := α)).Shifts d (Projectile.shift d) removeProjectile := by
  refine shifts_world.bind fun w => ?_
  rw [World.projectile_shift]
  cases w.projectile with
  | none => exact shifts_throw rfl
  | some p =>
    refine .bind (shifts_modifyWorld fun _ => rfl) fun _ => ?_
    exact (shifts_lift p.body.terminate_detach_shift).bind fun _ => shifts_pure rfl

/-- Putting a projectile into the world shifts. -/
theorem shifts_setProjectile (projectile : Projectile α) :
    (setProjectile projectile).Shifts d (EntityId.shift d)
      (setProjectile (projectile.shift d)) := by
  refine shifts_world.bind fun w => ?_
  refine (shifts_lift (w.checkRegistrable_shift projectile.body)).bind fun _ => ?_
  refine (shifts_lift (projectile.body.attach_shift w.id)).bind fun body => ?_
  have hfly : (do
      modifyWorld fun w => { w with projectile := some { projectile with body } }
      return projectile.id : Command α EntityId).Shifts d (EntityId.shift d) (do
      modifyWorld fun w =>
        { w with projectile := some { projectile.shift d with body := body.shift d } }
      return (projectile.shift d).id) :=
    .bind (shifts_modifyWorld fun _ => rfl) fun _ => shifts_pure rfl
  refine .ite ?_ (shifts_removeProjectile.bind fun _ => hfly) hfly
  rw [World.projectile_shift, Option.isSome_map]

/-- Teams hold no numbers, so that making one shifts to itself. -/
theorem shifts_addTeam (team : Team) :
    (addTeam (α := α) team).Shifts d id (addTeam team) := by
  refine shifts_world.bind fun w => (shifts_lift (w.anonymous_checkOpen d)).bind fun _ => ?_
  refine .ite Iff.rfl (shifts_throw_bind rfl) ?_
  exact .ite Iff.rfl (shifts_throw_bind rfl) (shifts_modifyWorld fun _ => rfl)

/-- Putting a worm into a team shifts. -/
theorem shifts_joinTeam (worm : EntityId) (team : String) :
    (joinTeam (α := α) worm team).Shifts d id (joinTeam (worm.shift d) team) := by
  refine shifts_world.bind fun w => .ite Iff.rfl (shifts_throw_bind rfl) ?_
  exact (shifts_requireWorm worm).bind fun found => shifts_setWorm { found with team := some team }

/-- Taking a worm out shifts: it is found at the same place, and the turn goes on from there
alike. -/
theorem shifts_removeWorm (worm : EntityId) :
    (removeWorm (α := α) worm).Shifts d (Worm.shift d) (removeWorm (worm.shift d)) := by
  refine shifts_world.bind fun w => ?_
  have hplace : (w.shift d).worms.findIdx? (fun found => found.id = worm.shift d) =
      w.worms.findIdx? fun found => found.id = worm := by
    rw [World.worms_shift, List.findIdx?_map]
    refine congrArg (List.findIdx? · w.worms) (funext fun found => ?_)
    exact decide_eq_decide.mpr EntityId.shift_inj
  rw [hplace]
  cases w.worms.findIdx? fun found => found.id = worm with
  | none => exact shifts_throw rfl
  | some index =>
    refine (shifts_lift (w.requireWorm_shift worm)).bind fun found => ?_
    refine (shifts_modifyWorld fun w => ?_).bind fun _ => ?_
    · have herase : (w.worms.map (Worm.shift d)).eraseIdx index =
          (w.worms.eraseIdx index).map (Worm.shift d) := List.eraseIdx_map ..
      exact congrArg (fun worms => { w.shift d with worms, state := w.stateWithout index }) herase
    · exact (shifts_lift found.body.terminate_detach_shift).bind fun _ => shifts_pure rfl

private theorem shifts_killWorm (worm : EntityId) :
    (killWorm (α := α) worm).Shifts d id (killWorm (worm.shift d)) :=
  (shifts_removeWorm worm).bind fun _ => shifts_pure rfl

/-- Taking a ration out shifts. -/
theorem shifts_removeFood (ration : EntityId) :
    (removeFood (α := α) ration).Shifts d (Food.shift d) (removeFood (ration.shift d)) := by
  refine shifts_world.bind fun w => ?_
  rw [World.food?_shift]
  cases w.food? ration with
  | none => exact shifts_throw rfl
  | some food =>
    refine (shifts_modifyWorld fun w => ?_).bind fun _ => ?_
    · have herase : (w.food.map (Food.shift d)).eraseP (fun f => f.id = ration.shift d) =
          (w.food.eraseP fun f => f.id = ration).map (Food.shift d) := by
        rw [List.eraseP_map]
        refine congrArg (List.map _ <| List.eraseP · w.food) (funext fun found => ?_)
        exact decide_eq_decide.mpr EntityId.shift_inj
      exact congrArg (fun food => { w.shift d with food }) herase
    · exact (shifts_lift food.body.terminate_detach_shift).bind fun _ => shifts_pure rfl

private theorem released_shift (e : Entity α) : released (e.shift d) = (released e).shift d := by
  have hbody : (e.shift d).body = e.body.shift d := by
    cases e <;> rfl
  have hwith : ∀ body : Body α,
      (e.shift d).withBody (body.shift d) = (e.withBody body).shift d := by
    intro body
    cases e <;> rfl
  simp only [released, hbody, Body.detach_shift, Body.terminate_shift]
  cases e.body.detach.terminate with
  | error _ => exact hwith _
  | ok body => exact hwith body

/-- The entities that the end of a world hands back are the shifted ones, in the same order. -/
theorem shifts_terminate :
    (terminate (α := α)).Shifts d (List.map (Entity.shift d)) terminate := by
  refine shifts_world.bind fun w => .ite Iff.rfl (shifts_pure rfl) ?_
  refine .bind (shifts_modifyWorld fun _ => rfl) fun _ => shifts_pure ?_
  have hprojectile : ((w.projectile.map (Projectile.shift d)).map Entity.projectile).toList =
      (w.projectile.map Entity.projectile).toList.map (Entity.shift d) := by
    cases w.projectile <;> rfl
  have hheld : (w.worms.map (Worm.shift d)).map Entity.worm ++
      (w.food.map (Food.shift d)).map Entity.food ++
      ((w.projectile.map (Projectile.shift d)).map Entity.projectile).toList =
      (w.worms.map Entity.worm ++ w.food.map Entity.food ++
        (w.projectile.map Entity.projectile).toList).map (Entity.shift d) := by
    rw [List.map_append, List.map_append, hprojectile]
    simp only [List.map_map]
    rfl
  refine (congrArg (List.map released) hheld).trans ?_
  rw [List.map_map, List.map_map]
  exact List.map_congr_left fun e _ => released_shift e

variable [Scalar α]

/-! ### Turning, moving, falling and eating -/

/-- A turn on the spot shifts. -/
theorem shifts_turn (worm : EntityId) (angle : α) :
    (turn worm angle).Shifts d id (turn (worm.shift d) angle) :=
  (shifts_requireWorm worm).bind fun found => (shifts_lift (found.turn_shift angle)).bind fun _ =>
    shifts_setWorm _

omit [Scalar α] in
/-- The choice of the next weapon shifts. -/
theorem shifts_selectNextWeapon (worm : EntityId) :
    (selectNextWeapon (α := α) worm).Shifts d id (selectNextWeapon (worm.shift d)) :=
  (shifts_requireWorm worm).bind fun found => shifts_setWorm found.selectNextWeapon

private theorem shifts_eatEach (worm : EntityId) (rations : List EntityId) :
    (eatEach (α := α) worm rations).Shifts d id
      (eatEach (worm.shift d) (rations.map (EntityId.shift d))) := by
  induction rations with
  | nil => exact shifts_pure rfl
  | cons ration rest ih =>
    refine (shifts_removeFood ration).bind fun _ => (shifts_requireWorm worm).bind fun found => ?_
    exact (shifts_lift found.grow_shift).bind fun grown => (shifts_setWorm grown).bind fun _ => ih

/-- A meal shifts: the same rations are touched, and they are eaten in the same order. -/
theorem shifts_eat (worm : EntityId) :
    (eat (α := α) worm).Shifts d id (eat (worm.shift d)) := by
  refine (shifts_requireWorm worm).bind fun found => shifts_world.bind fun w => ?_
  have hrations : ((w.shift d).food.filter fun f =>
        f.body.overlaps (found.shift d).position (found.shift d).radius).map Food.id =
      ((w.food.filter fun f => f.body.overlaps found.position found.radius).map Food.id).map
        (EntityId.shift d) := by
    rw [World.food_shift, List.filter_map, List.map_map, List.map_map]
    rfl
  rw [hrations]
  exact (shifts_eatEach worm _).bind fun _ => shifts_pure (List.length_map _)

/-- A fall shifts, with the end that it takes. -/
theorem shifts_fall (worm : EntityId) :
    (fall (α := α) worm).Shifts d id (fall (worm.shift d)) := by
  refine shifts_world.bind fun w => .ite ?_ (shifts_throw_bind rfl) ?_
  · rw [World.canFall_shift]
  refine (shifts_requireWorm worm).bind fun found => ?_
  refine (shifts_lift (w.landing_shift found)).bind fun landing => ?_
  cases landing with
  | none => exact shifts_killWorm worm
  | some landed =>
    refine (shifts_lift (found.setPosition_shift landed)).bind fun placed => ?_
    refine (shifts_setWorm _).bind fun _ => .ite Iff.rfl ?_ (shifts_killWorm worm)
    exact (shifts_eat worm).bind fun _ => shifts_pure rfl

/-- A step along the ground shifts, with the fall after it. -/
theorem shifts_move (worm : EntityId) :
    (move (α := α) worm).Shifts d id (move (worm.shift d)) := by
  refine shifts_world.bind fun w => (shifts_lift (w.planMove_shift worm)).bind fun plan => ?_
  obtain ⟨target, cost⟩ := plan
  refine (shifts_requireWorm worm).bind fun found => ?_
  refine (shifts_lift (anonymous_sampleCount _ _ d)).bind fun _ => ?_
  refine (shifts_lift (found.spend_shift cost)).bind fun paid => ?_
  refine (shifts_setWorm paid).bind fun _ => ?_
  refine (shifts_lift (paid.setPosition_shift target)).bind fun placed => ?_
  refine (shifts_setWorm placed).bind fun _ => .ite Iff.rfl ?_ (shifts_killWorm worm)
  refine (shifts_eat worm).bind fun _ => shifts_world.bind fun w' => ?_
  refine .ite ?_ (shifts_fall worm) (shifts_pure rfl)
  rw [World.canFall_shift]

/-! ### Jumping -/

/-- A jump with a given time step shifts. -/
theorem shifts_jumpWith (worm : EntityId) (timeStep : α) :
    (jumpWith worm timeStep).Shifts d id (jumpWith (worm.shift d) timeStep) := by
  refine (shifts_lift (anonymous_checkTimeStep timeStep d)).bind fun _ => ?_
  refine shifts_world.bind fun w => ?_
  rw [World.jumpTarget?_shift]
  cases w.jumpTarget? worm timeStep with
  | none => exact shifts_throw rfl
  | some landing =>
    refine (shifts_requireWorm worm).bind fun found => (shifts_setWorm found.drain).bind fun _ => ?_
    refine (shifts_lift (found.drain.setPosition_shift landing.position)).bind fun placed => ?_
    refine (shifts_setWorm placed).bind fun _ => ?_
    cases landing with
    | exit => exact shifts_killWorm worm
    | ground => exact (shifts_eat worm).bind fun _ => shifts_pure rfl

/-- A jump shifts. -/
theorem shifts_jump (worm : EntityId) :
    (jump (α := α) worm).Shifts d id (jump (worm.shift d)) :=
  shifts_world.bind fun w => shifts_jumpWith worm w.config.timeStep

/-! ### Firing -/

private theorem shifts_aim (worm : EntityId) (yieldPercent : Nat) :
    (aim (α := α) worm yieldPercent).Shifts d (Prod.map (Projectile.shift d) id)
      (aim (worm.shift d) yieldPercent) := by
  refine shifts_world.bind fun w => ?_
  refine (shifts_lift (w.fireCost_shift worm yieldPercent)).bind fun cost => ?_
  refine (shifts_requireWorm worm).bind fun found => ?_
  refine .ite Iff.rfl (shifts_throw_bind rfl) ?_
  refine .bind (shifts_mint fun shot => ?_) fun projectile => shifts_pure rfl
  exact Projectile.make_shift _ found.direction found.weapon yieldPercent _ (some worm) shot

omit [Scalar α] in
private theorem shifts_launch (worm : EntityId) (projectile : Projectile α) (cost : Nat) :
    (launch worm projectile cost).Shifts d (EntityId.shift d)
      (launch (worm.shift d) (projectile.shift d) cost) := by
  refine (shifts_setProjectile projectile).bind fun _ => ?_
  refine (shifts_requireWorm worm).bind fun found => ?_
  exact (shifts_lift (found.spend_shift cost)).bind fun paid => (shifts_setWorm paid).bind fun _ =>
    shifts_pure rfl

/-- A shot shifts, with the number of the projectile. -/
theorem shifts_fire (worm : EntityId) (yieldPercent : Nat) :
    (fire (α := α) worm yieldPercent).Shifts d (EntityId.shift d)
      (fire (worm.shift d) yieldPercent) :=
  (shifts_aim worm yieldPercent).bind fun aimed => shifts_launch worm aimed.1 aimed.2

omit [Scalar α] in
private theorem shifts_land (impact : Impact α) (weapon : WeaponKind) :
    (land impact weapon).Shifts d (Impact.shift d) (land (impact.shift d) weapon) := by
  have hclear : ∀ impact : Impact α, (do
      let _ ← removeProjectile
      return impact : Command α (Impact α)).Shifts d (Impact.shift d) (do
      let _ ← removeProjectile
      return impact.shift d) :=
    fun impact => shifts_removeProjectile.bind fun _ => shifts_pure rfl
  refine shifts_world.bind fun w => ?_
  cases impact with
  | terrain | outOfWorld => exact .bind (shifts_pure rfl) hclear
  | worm target position killed =>
    refine (shifts_requireWorm target).bind fun found => ?_
    refine (shifts_setWorm _).bind fun _ => .ite Iff.rfl ?_ (.bind (shifts_pure rfl) hclear)
    exact (shifts_killWorm target).bind fun _ => .bind (shifts_pure rfl) hclear

/-- The flight of a projectile shifts, with what it strikes. -/
theorem shifts_resolve (timeStep : α) :
    (resolve timeStep).Shifts d (Impact.shift d) (resolve timeStep) := by
  refine shifts_world.bind fun w => ?_
  refine (shifts_lift w.requireProjectile_shift).bind fun projectile => ?_
  exact (shifts_lift (w.flight_shift projectile timeStep)).bind fun flown =>
    shifts_land flown.1 projectile.weapon

/-- A shot and its flight in one request shift. -/
theorem shifts_fireAndResolve (worm : EntityId) (yieldPercent : Nat) (timeStep : α) :
    (fireAndResolve worm yieldPercent timeStep).Shifts d (Impact.shift d)
      (fireAndResolve (worm.shift d) yieldPercent timeStep) := by
  refine (shifts_aim worm yieldPercent).bind fun aimed => shifts_world.bind fun w => ?_
  obtain ⟨projectile, cost⟩ := aimed
  refine (shifts_lift (w.flight_shift projectile timeStep)).bind fun flown => ?_
  exact (shifts_launch worm projectile cost).bind fun _ => shifts_land flown.1 projectile.weapon

/-! ### Programs -/

/-- Every action of a program shifts. -/
theorem shifts_act (worm : EntityId) (action : Action α) :
    (act worm action).Shifts d id (act (worm.shift d) action) := by
  cases action with
  | turn angle => exact shifts_turn worm angle
  | move => exact shifts_move worm
  | jump => exact shifts_jump worm
  | fire yieldPercent =>
    exact shifts_world.bind fun w =>
      (shifts_fireAndResolve worm yieldPercent w.config.timeStep).bind fun _ => shifts_pure rfl
  | toggleWeapon => exact shifts_selectNextWeapon worm

/-! ### Random placement -/

omit [Scalar α] in
private theorem shifts_draw : (draw (α := α)).Shifts d id draw :=
  shifts_world.bind fun _ => .bind (shifts_modifyWorld fun _ => rfl) fun _ => shifts_pure rfl

private theorem shifts_spotAfter (radius step : α) (attempts : Nat) :
    (spotAfter radius step attempts).Shifts d id (spotAfter radius step attempts) := by
  induction attempts with
  | zero => exact shifts_pure rfl
  | succ attempts ih =>
    refine shifts_world.bind fun w => shifts_draw.bind fun x => shifts_draw.bind fun y => ?_
    refine (shifts_lift (w.anonymous_walk radius step _ d)).bind fun spot => ?_
    cases spot with
    | none => exact ih
    | some spot => exact shifts_pure rfl

private theorem shifts_findSpot (radius : α) : (findSpot radius).Shifts d id (findSpot radius) := by
  refine shifts_world.bind fun w => (shifts_spotAfter radius _ _).bind fun spot => ?_
  cases spot with
  | none => exact shifts_throw rfl
  | some spot => exact shifts_pure rfl

/-- A worm at a random place is put at the same place: the stream of random numbers does not know
the numbers of entities. -/
theorem shifts_addNewWorm (program : Option (ProgramInstance α)) :
    (addNewWorm program).Shifts d (EntityId.shift d)
      (addNewWorm (program.map (ProgramInstance.shift d))) := by
  refine shifts_world.bind fun w => (shifts_lift (w.anonymous_checkOpen d)).bind fun _ => ?_
  refine (shifts_findSpot _).bind fun spot => shifts_draw.bind fun direction => ?_
  rw [World.worms_shift, List.length_map]
  refine .bind (shifts_mint fun worm => Worm.make_shift _ spot _ _ _ worm) fun worm => ?_
  cases program with
  | none => exact shifts_addWorm worm
  | some program => exact shifts_addWorm (worm.attachProgram program)

/-- A ration at a random place is put at the same place. -/
theorem shifts_addNewFood : (addNewFood (α := α)).Shifts d (EntityId.shift d) addNewFood := by
  refine shifts_world.bind fun w => (shifts_lift (w.anonymous_checkOpen d)).bind fun _ => ?_
  refine (shifts_findSpot _).bind fun spot => ?_
  exact .bind (shifts_mint fun food => Food.make_shift spot _ food) fun food => shifts_addFood food

/-! ### Turns -/

/-- The start of a game shifts. -/
theorem shifts_start : (start (α := α)).Shifts d id start := by
  refine shifts_world.bind fun w => ?_
  have hstate : (w.shift d).state = w.state := rfl
  rw [hstate]
  cases w.state with
  | notStarted =>
    refine .ite (by rw [World.worms_shift, List.isEmpty_map]) (shifts_modifyWorld fun _ => rfl) ?_
    exact (shifts_lift (w.handTurn_shift 0 1)).bind fun _ => shifts_modifyWorld fun _ => rfl
  | terminated => exact shifts_throw rfl
  | inProgress | finished => exact shifts_throw rfl

/-- Handing on the turn shifts. -/
theorem shifts_startNextTurn : (startNextTurn (α := α)).Shifts d id startNextTurn := by
  refine shifts_world.bind fun w => ?_
  have hstate : (w.shift d).state = w.state := rfl
  rw [hstate]
  cases w.state with
  | inProgress turn =>
    rw [World.isGameOver_shift]
    refine .ite Iff.rfl (shifts_modifyWorld fun _ => rfl) ?_
    rw [World.nextIndex_shift]
    exact (shifts_lift (w.handTurn_shift _ _)).bind fun _ => shifts_modifyWorld fun _ => rfl
  | notStarted | finished | terminated => exact shifts_throw rfl

end Command

/-! ### Programs -/

namespace Simulation

variable [Scalar α] {d : Nat}

/-- **Simulations may be shifted under running programs.** -/
theorem environment_shift (d : Nat) : Environment.Shifts d (shift d (α := α)) where
  view s := s.world.view_shift
  actionPoints s := s.world.actionPoints_shift
  actionCost s := s.world.actionCost_shift
  perform s worm action := Command.shifts_act worm action s

private theorem runInstance_shift (s : Simulation α) (i : ProgramInstance α) :
    (s.shift d).runInstance (i.shift d) =
      (shiftRefusal d (s.runInstance i).1, (s.runInstance i).2.1.shift d,
        (s.runInstance i).2.2.shift d) := by
  have hrun : (i.shift d).run (s.shift d) = (i.run s).shift d (shift d) :=
    i.run_shift (environment_shift d) s
  have hnews : ∀ effects : List (Effect α), (effects.map (Effect.shift d)).filter Effect.isTold =
      (effects.filter Effect.isTold).map (Effect.shift d) := by
    intro effects
    rw [List.filter_map]
    refine congrArg (List.map _) (List.filter_congr fun effect _ => ?_)
    cases effect <;> rfl
  -- The latest news come first, and only an observed program has any.
  have htold : (if i.observed then ((i.run s).effects.map (Effect.shift d)).filter Effect.isTold
        else []).reverse ++ s.told.map (Effect.shift d) =
      ((if i.observed then (i.run s).effects.filter Effect.isTold else []).reverse ++
        s.told).map (Effect.shift d) := by
    rw [List.map_append, List.map_reverse]
    cases i.observed with
    | false => rfl
    | true => simp only [if_true, hnews]
  rw [runInstance, runInstance, hrun]
  exact congrArg (fun told => (shiftRefusal d (i.run s).result, (i.run s).instanceAfter.shift d,
    { (i.run s).stateAfter.shift d with told })) htold

end Simulation

namespace Command

variable [Scalar α] {d : Nat}

/-- A run of a program outside its worm shifts, with the program that is left. -/
theorem shifts_runInstance (i : ProgramInstance α) :
    (runInstance i).Shifts d (Prod.map (shiftRefusal d) (ProgramInstance.shift d))
      (runInstance (i.shift d)) := by
  intro s
  exact congrArg (fun run => (Except.ok (run.1, run.2.1), run.2.2)) (s.runInstance_shift i)

/-- A run of a worm's program shifts. -/
theorem shifts_runProgram (worm : EntityId) :
    (runProgram (α := α) worm).Shifts d id (runProgram (worm.shift d)) := by
  refine (shifts_requireWorm worm).bind fun found => ?_
  have hprogram : (found.shift d).program = found.program.map (ProgramInstance.shift d) := rfl
  rw [hprogram]
  cases found.program with
  | none => exact shifts_pure rfl
  | some program =>
    -- The worm is without its program while that runs, and gets it back if it is still there.
    refine (shifts_setWorm { found with program := none }).bind fun _ => ?_
    refine (shifts_runInstance program).bind fun ran => shifts_world.bind fun w => ?_
    obtain ⟨result, program⟩ := ran
    have hresult : (do return some (← result) : Command α (Option Outcome)).Shifts d id
        (do return some (← shiftRefusal d result)) :=
      (shifts_lift rfl).bind fun _ => shifts_pure rfl
    rw [World.worm?_shift]
    cases w.worm? worm with
    | none => exact hresult
    | some survivor =>
      exact (shifts_setWorm { survivor with program := some program }).bind fun _ => hresult

/-- A run of the current worm's program shifts. -/
theorem shifts_runCurrentProgram :
    (runCurrentProgram (α := α)).Shifts d id runCurrentProgram := by
  refine shifts_world.bind fun w => ?_
  rw [World.currentWorm?_shift]
  cases w.currentWorm? with
  | none => exact shifts_throw rfl
  | some worm => exact shifts_runProgram worm.id

/-! ### Battles -/

private theorem shifts_runTurn : (runTurn (α := α)).Shifts d id runTurn := by
  refine shifts_world.bind fun w => .ite ?_ ?_ (shifts_pure rfl)
  · rw [World.currentWorm?_shift, Option.isSome_map]
  · refine .bind (f := id) (.tryCatch (shifts_runCurrentProgram.bind fun _ => ?_) fun _ => ?_)
      fun ended => ?_
    · exact shifts_pure rfl
    · exact shifts_pure rfl
    · cases ended <;> exact shifts_pure rfl

private theorem shifts_playTurns (left played : Nat) :
    (playTurns (α := α) left played).Shifts d id (playTurns left played) := by
  induction left generalizing played with
  | zero => exact shifts_pure rfl
  | succ left ih =>
    refine shifts_world.bind fun w => .ite Iff.rfl ?_ (shifts_pure rfl)
    exact shifts_runTurn.bind fun _ => shifts_startNextTurn.bind fun _ => ih (played + 1)

/-- A game that is played on by its programs shifts, for any bound on its turns. -/
theorem shifts_play (maxTurns : Nat) :
    (play (α := α) maxTurns).Shifts d id (play maxTurns) :=
  shifts_start.bind fun _ => shifts_playTurns maxTurns 0

end Command

end WormBattle
