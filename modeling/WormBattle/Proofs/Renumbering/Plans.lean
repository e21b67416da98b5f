import WormBattle.Proofs.Renumbering.Worlds
import WormBattle.World.Spawn

/-!
# Plans under other numbers

Moves, falls, jumps, flights and random spots are planned from places, radii and terrain. None of
these has to do with numbers, so most refusals on the way name nobody (`Anonymous`), and what is
planned for a shifted worm in a shifted world is what is planned for the worm in the world.
-/

namespace WormBattle

variable {α : Type} [Scalar α] {d : Nat}

/-! ### Samples and terrain -/

/-- A bad time step is refused without naming an entity. -/
theorem anonymous_checkTimeStep (step : α) : Anonymous (checkTimeStep step) :=
  anonymous_ite (fun _ => rfl) (anonymous_ok ())

/-- A span with too many samples is refused without naming an entity. -/
theorem anonymous_sampleCount (span step : α) : Anonymous (sampleCount span step) :=
  anonymous_ite (fun _ => rfl) (anonymous_ite (fun _ => rfl)
    (anonymous_ite (fun _ => rfl) (anonymous_ok _)))

omit [Scalar α] in
private theorem anonymous_firstSome? {β : Type} {f : Nat → Except (Error α) (Option β)}
    (hf : ∀ k, Anonymous (f k)) (start count : Nat) : Anonymous (firstSome? f start count) := by
  intro d
  induction count generalizing start with
  | zero => rfl
  | succ count ih =>
    have hstart := hf start d
    rw [firstSome?]
    generalize f start = found at hstart ⊢
    rcases found with e | - | b
    · exact hstart
    · exact ih (start + 1)
    · rfl

namespace TerrainGrid

variable (g : TerrainGrid α)

private theorem anonymous_isPassable (centre : Position α) (radius : α) :
    Anonymous (g.isPassable centre radius) := by
  have hdisc : Anonymous (checkDisc centre radius) :=
    anonymous_ite (fun _ => rfl) (anonymous_ite (fun _ => rfl) (anonymous_ok ()))
  refine hdisc.bind fun _ => ?_
  split
  · exact anonymous_ok true
  · exact anonymous_ok _

private theorem anonymous_classify (centre : Position α) (radius : α) :
    Anonymous (g.classify centre radius) := by
  refine (g.anonymous_isPassable centre radius).bind fun open_ => ?_
  split
  · exact anonymous_ok _
  refine (g.anonymous_isPassable centre _).bind fun clear => ?_
  split
  · exact anonymous_ok _
  · exact anonymous_ok _

end TerrainGrid

namespace World

variable (w : World α)

/-! ### Moves -/

private theorem anonymous_spotIf (worm : Worm α) (location : Location) (spot : Position α) :
    Anonymous (w.spotIf worm location spot) := by
  refine (w.grid.anonymous_classify spot worm.radius).bind fun found => ?_
  split
  · exact anonymous_ok _
  · exact anonymous_ok _

private theorem anonymous_contactPair (worm : Worm α) (k j : Nat) :
    Anonymous (w.contactPair worm k j) := by
  refine (w.anonymous_spotIf worm .contact _).bind fun left => ?_
  cases left with
  | some spot => exact anonymous_ok _
  | none => exact w.anonymous_spotIf worm .contact _

private theorem anonymous_plannedMoveOf (worm : Worm α) : Anonymous (w.plannedMoveOf worm) := by
  refine (anonymous_sampleCount _ _).bind fun _ => (anonymous_sampleCount _ _).bind fun _ => ?_
  refine (anonymous_firstSome? (fun k =>
    anonymous_firstSome? (w.anonymous_contactPair worm k) 0 _) 0 _).bind fun contact => ?_
  cases contact with
  | some spot => exact anonymous_ok _
  | none => exact anonymous_firstSome? (fun k => w.anonymous_spotIf worm .passable _) 0 _

/-- The step that a worm plans does not depend on the numbers. -/
theorem plannedMove_shift (worm : EntityId) :
    (w.shift d).plannedMove (worm.shift d) = shiftRefusal d (w.plannedMove worm) :=
  bind_shift (w.requireWorm_shift worm) fun worm => w.anonymous_plannedMoveOf worm d

/-- What a step costs does not depend on the numbers. -/
theorem moveCost_shift (worm : EntityId) (target : Position α) :
    (w.shift d).moveCost (worm.shift d) target = shiftRefusal d (w.moveCost worm target) :=
  bind_shift (w.requireWorm_shift worm) fun _ => rfl

/-- A planned step is refused alike, up to the worm that the refusal names. -/
theorem planMove_shift (worm : EntityId) :
    (w.shift d).planMove (worm.shift d) = shiftRefusal d (w.planMove worm) := by
  refine bind_shift (w.plannedMove_shift worm) fun target => ?_
  cases target with
  | none => rfl
  | some target => exact bind_shift (w.moveCost_shift worm target) fun _ => rfl

/-- Whether a worm can move does not depend on the numbers. -/
theorem canMove_shift (worm : EntityId) :
    (w.shift d).canMove (worm.shift d) = w.canMove worm := by
  rw [canMove, canMove, planMove_shift, worm?_shift]
  cases w.planMove worm with
  | error e => rfl
  | ok plan => cases w.worm? worm <;> rfl

/-- How a worm lies in the terrain does not depend on the numbers. -/
theorem locationOf_shift (worm : EntityId) :
    (w.shift d).locationOf (worm.shift d) = shiftRefusal d (w.locationOf worm) :=
  bind_shift (w.requireWorm_shift worm) fun worm =>
    w.grid.anonymous_classify worm.position worm.radius d

/-! ### Falls -/

/-- Whether a worm can fall does not depend on the numbers. -/
theorem canFall_shift (worm : EntityId) :
    (w.shift d).canFall (worm.shift d) = w.canFall worm := by
  rw [canFall, canFall, worm?_shift]
  cases w.worm? worm <;> rfl

private theorem fallFrom_shift (worm : EntityId) (start : Position α) (radius step : α)
    (left k : Nat) (landed : Position α) :
    (w.shift d).fallFrom (worm.shift d) start radius step left k landed =
      shiftRefusal d (w.fallFrom worm start radius step left k landed) := by
  induction left generalizing k landed with
  | zero => rfl
  | succ left ih =>
    rw [fallFrom, fallFrom]
    refine ite_shift Iff.rfl rfl ?_
    refine bind_shift (w.grid.anonymous_classify _ radius d) fun location => ?_
    cases location with
    | passable => exact ih (k + 1) _
    | contact | impassable => rfl

/-- Where a falling worm ends does not depend on the numbers. -/
theorem landing_shift (worm : Worm α) :
    (w.shift d).landing (worm.shift d) = shiftRefusal d (w.landing worm) :=
  bind_shift (anonymous_sampleCount _ _ d) fun samples =>
    w.fallFrom_shift worm.id worm.position worm.radius _ samples 1 worm.position

/-! ### Jumps -/

private theorem anonymous_jumpFrom (ballistic : Ballistic α) (radius timeStep : α) (left k : Nat)
    (before : Position α) (beforeLocation : Location) :
    Anonymous (w.jumpFrom ballistic radius timeStep left k before beforeLocation) := by
  induction left generalizing k before beforeLocation with
  | zero => exact fun _ => rfl
  | succ left ih =>
    simp only [jumpFrom]
    split
    · exact anonymous_ok _
    · refine (w.grid.anonymous_classify _ radius).bind fun location => ?_
      cases location with
      | passable => exact ih (k + 1) _ _
      | contact => exact anonymous_ite (anonymous_ok _) (ih (k + 1) _ _)
      | impassable => exact anonymous_ite (anonymous_ok _) (anonymous_ok _)

private theorem jumpFrom_shift (ballistic : Ballistic α) (radius timeStep : α) (left k : Nat)
    (before : Position α) (beforeLocation : Location) :
    (w.shift d).jumpFrom ballistic radius timeStep left k before beforeLocation =
      w.jumpFrom ballistic radius timeStep left k before beforeLocation := by
  induction left generalizing k before beforeLocation with
  | zero => rfl
  | succ left ih => simp only [jumpFrom, ih]; rfl

private theorem anonymous_jumpLanding (worm : Worm α) (timeStep : α) :
    Anonymous (w.jumpLanding worm timeStep) := by
  refine (anonymous_checkTimeStep timeStep).bind fun _ => ?_
  dsimp only
  split
  · exact anonymous_ok none
  · exact (anonymous_sampleCount _ _).bind fun samples =>
      (w.grid.anonymous_classify _ _).bind fun location =>
        w.anonymous_jumpFrom _ _ _ _ _ _ location

private theorem jumpLanding_shift (worm : Worm α) (timeStep : α) :
    (w.shift d).jumpLanding (worm.shift d) timeStep = w.jumpLanding worm timeStep := by
  simp only [jumpLanding, jumpFrom_shift]
  rfl

/-- Where a jump ends does not depend on the numbers. -/
theorem jumpTarget?_shift (worm : EntityId) (timeStep : α) :
    (w.shift d).jumpTarget? (worm.shift d) timeStep = w.jumpTarget? worm timeStep := by
  rw [jumpTarget?, jumpTarget?, worm?_shift]
  cases w.worm? worm with
  | none => rfl
  | some found =>
    simp only [Option.map_some, jumpLanding_shift]
    rfl

/-- Whether a worm can jump does not depend on the numbers. -/
theorem canJump_shift (worm : EntityId) :
    (w.shift d).canJump (worm.shift d) = w.canJump worm :=
  congrArg Option.isSome (w.jumpTarget?_shift worm w.config.timeStep)

/-- How long a jump takes does not depend on the numbers. -/
theorem jumpTime_shift (worm : EntityId) (timeStep : α) :
    (w.shift d).jumpTime (worm.shift d) timeStep = shiftRefusal d (w.jumpTime worm timeStep) := by
  refine bind_shift (w.requireWorm_shift worm) fun found => ?_
  rw [jumpLanding_shift]
  refine bind_shift (w.anonymous_jumpLanding found timeStep d) fun landing => ?_
  cases landing <;> rfl

/-! ### Flights -/

private theorem struck?_shift (owner : Option EntityId) (sample : Position α) (radius : α) :
    (w.shift d).struck? (owner.map (EntityId.shift d)) sample radius =
      (w.struck? owner sample radius).map (Worm.shift d) := by
  show (w.worms.map (Worm.shift d)).find? _ = (w.worms.find? _).map _
  rw [List.find?_map]
  refine congrArg (Option.map _) (congrArg (List.find? · w.worms) (funext fun worm => ?_))
  -- The worm that fired is spared by its number, which is only compared.
  have howner : some (worm.id.shift d) = owner.map (EntityId.shift d) ↔ some worm.id = owner :=
    (Option.map_injective (EntityId.shift_injective d)).eq_iff (a := some worm.id)
  exact congrArg (· && worm.body.overlaps sample radius) (decide_eq_decide.mpr (not_congr howner))

private theorem flyFrom_shift (projectile : Projectile α) (ballistic : Ballistic α) (timeStep : α)
    (left k : Nat) (before : Position α) :
    (w.shift d).flyFrom (projectile.shift d) ballistic timeStep left k before =
      shiftResult d (Prod.map (Impact.shift d) (fun time => time))
        (w.flyFrom projectile ballistic timeStep left k before) := by
  induction left generalizing k before with
  | zero => rfl
  | succ left ih =>
    rw [flyFrom, flyFrom]
    refine ite_shift Iff.rfl rfl ?_
    have hstruck : (w.shift d).struck? (projectile.shift d).owner
        (ballistic.positionAt (k * timeStep)) (projectile.shift d).body.radius =
        (w.struck? projectile.owner (ballistic.positionAt (k * timeStep))
          projectile.body.radius).map (Worm.shift d) :=
      w.struck?_shift ..
    rw [hstruck]
    cases w.struck? projectile.owner (ballistic.positionAt (k * timeStep))
      projectile.body.radius with
    | some worm => rfl
    | none =>
      refine bind_shift (w.grid.anonymous_classify _ _ d) fun location => ?_
      cases location with
      | impassable => rfl
      | contact => exact ite_shift Iff.rfl rfl (ih (k + 1) _)
      | passable => exact ih (k + 1) _

/-- A projectile flies to the same place and strikes the shifted worm. -/
theorem flight_shift (projectile : Projectile α) (timeStep : α) :
    (w.shift d).flight (projectile.shift d) timeStep =
      shiftResult d (Prod.map (Impact.shift d) (fun time => time))
        (w.flight projectile timeStep) :=
  bind_shift (anonymous_checkTimeStep timeStep d) fun _ =>
    bind_shift (anonymous_sampleCount _ _ d) fun samples =>
      w.flyFrom_shift projectile projectile.launch.ballistic timeStep samples 1 _

omit [Scalar α] in
/-- The projectile of a shifted world is the shifted one. -/
theorem requireProjectile_shift :
    (w.shift d).requireProjectile = shiftResult d (Projectile.shift d) w.requireProjectile := by
  rw [requireProjectile, requireProjectile, projectile_shift]
  cases w.projectile <;> rfl

/-- How long a projectile flies does not depend on the numbers. -/
theorem projectileTime_shift (timeStep : α) :
    (w.shift d).projectileTime timeStep = shiftRefusal d (w.projectileTime timeStep) :=
  bind_shift w.requireProjectile_shift fun projectile =>
    bind_shift (w.flight_shift projectile timeStep) fun _ => rfl

/-- What a shot costs does not depend on the numbers. -/
theorem fireCost_shift (worm : EntityId) (yieldPercent : Nat) :
    (w.shift d).fireCost (worm.shift d) yieldPercent =
      shiftRefusal d (w.fireCost worm yieldPercent) := by
  refine bind_shift (anonymous_checkYield yieldPercent d) fun _ =>
    bind_shift (w.requireWorm_shift worm) fun found =>
      bind_shift (w.grid.anonymous_classify found.position found.radius d) fun location => ?_
  cases location <;> rfl

/-! ### Random spots -/

/-- A walk to a free place is refused without naming an entity. -/
theorem anonymous_walk (radius step : α) (start : Position α) :
    Anonymous (w.walk radius step start) := by
  refine (anonymous_sampleCount _ _).bind fun samples =>
    anonymous_firstSome? (fun k => ?_) 0 samples
  refine anonymous_ite (anonymous_ok none) ?_
  refine (w.grid.anonymous_classify _ radius).bind fun location => ?_
  exact anonymous_ite (anonymous_ok _) (anonymous_ok none)

/-! ### Entering -/

omit [Scalar α] in
/-- A world that is over refuses without naming an entity. -/
theorem anonymous_checkOpen : Anonymous w.checkOpen :=
  anonymous_ite (fun _ => rfl) (anonymous_ok ())

omit [Scalar α] in
/-- A body may be listed in the shifted world if it may be listed in the world. -/
theorem checkRegistrable_shift (body : Body α) :
    (w.shift d).checkRegistrable (body.shift d) = shiftRefusal d (w.checkRegistrable body) := by
  have hcontains : (w.shift d).contains (body.shift d).id = true ↔ w.contains body.id = true :=
    Bool.eq_iff_iff.mp (w.contains_shift body.id)
  exact bind_shift (w.anonymous_checkOpen d) fun _ =>
    ite_shift Iff.rfl rfl (ite_shift hcontains rfl rfl)

/-! ### Actions -/

omit [Scalar α] in
/-- The action points of a worm do not depend on the numbers. -/
theorem actionPoints_shift (worm : EntityId) :
    (w.shift d).actionPoints (worm.shift d) = shiftRefusal d (w.actionPoints worm) :=
  bind_shift (w.requireWorm_shift worm) fun _ => rfl

/-- What an action costs does not depend on the numbers. -/
theorem actionCost_shift (worm : EntityId) (action : Action α) :
    (w.shift d).actionCost (worm.shift d) action = shiftRefusal d (w.actionCost worm action) := by
  refine bind_shift (w.requireWorm_shift worm) fun found => ?_
  cases action with
  | turn angle => exact found.anonymous_turnCost angle d
  | move => exact bind_shift (w.planMove_shift worm) fun _ => rfl
  | jump =>
    have hcan : (w.shift d).canJump (worm.shift d) = true ↔ w.canJump worm = true :=
      Bool.eq_iff_iff.mp (w.canJump_shift worm)
    exact ite_shift Iff.rfl rfl (ite_shift hcan rfl rfl)
  | fire yieldPercent => exact w.fireCost_shift worm yieldPercent
  | toggleWeapon => rfl

end World

end WormBattle
