import WormBattle.Proofs.Physics.Sinking
import WormBattle.Proofs.World.Refusal
import WormBattle.Proofs.World.Samples

/-!
# Searches that end

In exact arithmetic jumps, flights and falls never run out of samples, as long as the discs have
positive radii (`Simulation.Reachable.searches_end`). All samples can be judged, since the terrain
can classify every disc, and the last sample is below the world, so the search stops there at the
latest. For jumps and flights this is what the time to sink is for, and a fall is followed as far as
the worm is high.
-/

namespace WormBattle

/-! ### Discs -/

namespace TerrainGrid

variable {g : TerrainGrid ℝ} {radius : ℝ}

private theorem exists_isPassable_eq_ok (hradius : 0 ≤ radius) (centre : Position ℝ) :
    ∃ passable, g.isPassable centre radius = .ok passable := by
  have hdisc : checkDisc centre radius = .ok () := by
    simp [checkDisc, hradius]
  simp only [isPassable, hdisc, ok_bind]
  split <;> exact ⟨_, rfl⟩

/-- A terrain that does not shrink discs to detect contact can classify every disc. -/
theorem exists_classify_eq_ok (hinflation : 0 ≤ g.contactInflation) (hradius : 0 ≤ radius)
    (centre : Position ℝ) : ∃ location, g.classify centre radius = .ok location := by
  obtain ⟨passable, hpassable⟩ := exists_isPassable_eq_ok (g := g) hradius centre
  obtain ⟨clear, hclear⟩ :=
    exists_isPassable_eq_ok (g := g) (mul_nonneg hradius hinflation) centre
  simp only [classify, hpassable, hclear, ok_bind]
  split
  · exact ⟨_, rfl⟩
  · split <;> exact ⟨_, rfl⟩

/-- A disc whose centre is below the world is not inside it. -/
theorem isInside_eq_false_of_below (hradius : 0 < radius) {centre : Position ℝ}
    (h : centre.y < 0) : g.isInside centre radius = false := by
  rw [← Bool.not_eq_true]
  intro hinside
  simp only [isInside, Bool.and_eq_true, decide_eq_true_eq, Scalar.zero_real] at hinside
  linarith [hinside.1.2]

end TerrainGrid

/-! ### The terrain of a game -/

section Terrain

variable {α : Type} [Scalar α] {s s' : Simulation α} {op : Option (Operation α)}

/-- No step of a game touches its terrain and its settings. -/
theorem Simulation.Step.keeps_terrain (h : s.Step op s') (hs : s.world.Sound) :
    s'.world.grid = s.world.grid ∧ s'.world.config = s.world.config := by
  have hcourse := h.course hs
  generalize s'.world = w' at hcourse ⊢
  cases hcourse with
  | within _ _ hchanges =>
    refine hchanges.keeps (P := fun w => w.grid = s.world.grid ∧ w.config = s.world.config)
      (fun w w' hw hchange => ?_) ⟨rfl, rfl⟩
    cases hchange <;> exact hw
  | _ => exact ⟨rfl, rfl⟩

/-- The terrain inflates discs as the settings say. -/
theorem Simulation.Reachable.contactInflation_eq (hs : s.Reachable) :
    s.world.grid.contactInflation = s.world.config.terrain.contactInflation := by
  induction hs with
  | onGrid ids h =>
    obtain ⟨-, rfl⟩ := World.onGrid_eq_ok_iff.mp h
    rfl
  | step hs hstep ih =>
    obtain ⟨hgrid, hconfig⟩ := hstep.keeps_terrain hs.sound
    rw [hgrid, hconfig, ih]

/-- Usable settings do not shrink discs. -/
theorem GameConfig.one_le_contactInflation {config : GameConfig α} (h : config.check = .ok ()) :
    1.0 ≤ config.terrain.contactInflation := by
  simp only [check, bind_eq_ok_iff] at h
  obtain ⟨_, -, _, -, _, -, _, -, h⟩ := h
  split at h
  · cases h
  · rename_i hinflation
    simp at hinflation
    exact hinflation.1

end Terrain

/-- The default settings are usable. -/
theorem GameConfig.check_default : (default : GameConfig ℝ).check = .ok () := by
  simp only [check, checkTimeStep, checkPositive, default, Scalar.isFinite_real, Bool.not_true,
    Bool.false_or, decide_eq_true_eq, Scalar.zero_real]
  norm_num

/-! ### Searches -/

namespace World

variable {w : World ℝ} {worm : Worm ℝ} {shot : Projectile ℝ} {timeStep : ℝ} {n : ℕ}

/-- A sample of a trajectory beyond the time to sink below the bottom of the world is not inside
the world. -/
theorem isInside_eq_false_of_sunk (b : Ballistic ℝ) {radius : ℝ} (hradius : 0 < radius)
    (hsamples : sampleCount (b.timeToSinkBelow 0.0) timeStep = .ok n) :
    w.grid.isInside (b.positionAt (n * timeStep)) radius = false := by
  obtain ⟨-, -, hlast⟩ := sampleCount_eq_ok hsamples
  refine TerrainGrid.isInside_eq_false_of_below hradius ?_
  rw [← Scalar.zero_real]
  exact Ballistic.y_lt_of_timeToSinkBelow_lt hlast

private theorem not_fails_of_classify (hinflation : 0 ≤ w.grid.contactInflation) {radius : ℝ}
    (hradius : 0 < radius) (centre : Position ℝ) (e : Error ℝ) :
    w.grid.classify centre radius ≠ .error e := by
  obtain ⟨location, h⟩ := TerrainGrid.exists_classify_eq_ok hinflation hradius.le centre
  simp [h]

/-- **A jump that gets off the ground is decided within its samples.** -/
theorem jump_settles (hinflation : 0 ≤ w.grid.contactInflation) (hradius : 0 < worm.radius)
    (hfly : worm.launch.ballistic.canFly = true)
    (hsamples : sampleCount (worm.launch.ballistic.timeToSinkBelow 0.0) timeStep = .ok n) :
    (w.jumpSampling worm timeStep).Settles n (w.jumpLanding worm timeStep) := by
  obtain ⟨hstep, hn, -⟩ := sampleCount_eq_ok hsamples
  have hlegal : checkTimeStep timeStep = .ok () := by simp [checkTimeStep, hstep]
  obtain ⟨location, hlocation⟩ :=
    TerrainGrid.exists_classify_eq_ok hinflation hradius.le worm.position
  exact (jumpLanding_ends hlegal hfly hsamples hlocation).settles hn
    (.inl (isInside_eq_false_of_sunk _ hradius hsamples))
    fun _ _ => not_fails_of_classify hinflation hradius _ _

/-- **A flight is decided within its samples.** -/
theorem flight_settles (hinflation : 0 ≤ w.grid.contactInflation)
    (hradius : 0 < shot.body.radius)
    (hsamples : sampleCount (shot.launch.ballistic.timeToSinkBelow 0.0) timeStep = .ok n) :
    (w.shotSampling shot timeStep).Settles n (w.flight shot timeStep) := by
  obtain ⟨hstep, hn, -⟩ := sampleCount_eq_ok hsamples
  have hlegal : checkTimeStep timeStep = .ok () := by simp [checkTimeStep, hstep]
  exact (flight_ends hlegal hsamples).settles hn
    (.inl (isInside_eq_false_of_sunk _ hradius hsamples))
    fun _ _ => not_fails_of_classify hinflation hradius _ _

/-- **A fall is decided within its samples.** -/
theorem fall_settles (hinflation : 0 ≤ w.grid.contactInflation) (hradius : 0 < worm.radius)
    (hsamples : sampleCount (Scalar.maxNum worm.position.y 0.0)
      (worm.radius * worm.config.searchStepFraction) = .ok n) :
    (w.fallSampling worm).Settles n (w.landing worm) := by
  obtain ⟨-, hn, hlast⟩ := sampleCount_eq_ok hsamples
  have hsunk : (worm.fallSample n).y < 0 := by
    rw [Scalar.maxNum_real] at hlast
    exact sub_neg.mpr ((le_max_left _ _).trans_lt hlast)
  exact (landing_ends hsamples).settles hn
    (.inl (TerrainGrid.isInside_eq_false_of_below hradius hsunk))
    fun _ _ => not_fails_of_classify hinflation hradius _ _

end World

/-! ### Refusals for want of samples -/

section Lasting

variable {α β γ : Type}

/-- A search has run out of samples. -/
def Error.RanOut : Error α → Prop
  | jumpNeverEnded | flightNeverEnded | neverLanded _ => True
  | _ => False

/-- Nothing is refused because samples have run out. -/
def Lasts (x : Except (Error α) β) : Prop :=
  ∀ e, x = .error e → ¬e.RanOut

variable {x : Except (Error α) β} {f : β → Except (Error α) γ}

private theorem Lasts.ok (b : β) : Lasts (.ok b : Except (Error α) β) :=
  nofun

private theorem Lasts.error {e : Error α} (h : ¬e.RanOut) :
    Lasts (.error e : Except (Error α) β) := by
  rintro _ ⟨⟩
  exact h

private theorem Lasts.bind (hx : Lasts x) (hf : ∀ b, x = .ok b → Lasts (f b)) :
    Lasts (x >>= f) := by
  cases x with
  | ok b => exact hf b rfl
  | error e => exact .error (hx e rfl)

/-- A search that settles has an end. -/
theorem Lasts.of_settles {search : Sampling (Error α) β} {n : ℕ} (h : search.Settles n x) :
    Lasts x := by
  obtain ⟨-, -, -, b, -, rfl⟩ := h
  exact .ok b

private theorem lasts_terminate (b : Body α) : Lasts b.terminate := by
  intro e h
  rw [Body.terminate] at h
  split at h <;> cases h <;> exact id

variable [Scalar α]

private theorem lasts_checkTimeStep (step : α) : Lasts (checkTimeStep step) := by
  intro e h
  rw [checkTimeStep] at h
  split at h <;> cases h
  exact id

private theorem lasts_sampleCount (span step : α) : Lasts (sampleCount span step) := by
  intro e h
  simp only [sampleCount] at h
  split_ifs at h <;> cases h <;> exact id

private theorem lasts_setPosition (worm : Worm α) (spot : Position α) :
    Lasts (worm.setPosition spot) := by
  refine .bind (.bind (fun e h => ?_) fun _ _ => .ok _) fun _ _ => .ok _
  rw [Body.checkPosition] at h
  split at h <;> cases h
  exact id

private theorem lasts_grow (worm : Worm α) : Lasts worm.grow := by
  refine .bind (.bind (fun e h => ?_) fun _ _ => .ok _) fun _ _ => .ok _
  rw [Body.checkRadius] at h
  split at h <;> cases h
  exact id

end Lasting

namespace World

variable {w : World ℝ} {worm : Worm ℝ} {shot : Projectile ℝ}

private theorem lasts_jumpLanding (hinflation : 0 ≤ w.grid.contactInflation)
    (hradius : 0 < worm.radius) (timeStep : ℝ) : Lasts (w.jumpLanding worm timeStep) := by
  by_cases hfly : worm.launch.ballistic.canFly = true
  · cases hsamples : sampleCount (worm.launch.ballistic.timeToSinkBelow 0.0) timeStep with
    | ok n => exact .of_settles (jump_settles hinflation hradius hfly hsamples)
    | error e =>
      simp only [jumpLanding, hsamples, hfly, error_bind, Bool.not_true, Bool.false_eq_true,
        if_false]
      exact .bind (lasts_checkTimeStep timeStep) fun _ _ =>
        .error (lasts_sampleCount _ _ e hsamples)
  · simp only [jumpLanding, hfly]
    exact .bind (lasts_checkTimeStep timeStep) fun _ _ => .ok _

private theorem lasts_flight (hinflation : 0 ≤ w.grid.contactInflation)
    (hradius : 0 < shot.body.radius) (timeStep : ℝ) : Lasts (w.flight shot timeStep) := by
  cases hsamples : sampleCount (shot.launch.ballistic.timeToSinkBelow 0.0) timeStep with
  | ok n => exact .of_settles (flight_settles hinflation hradius hsamples)
  | error e =>
    simp only [flight, hsamples, error_bind]
    exact .bind (lasts_checkTimeStep timeStep) fun _ _ =>
        .error (lasts_sampleCount _ _ e hsamples)

private theorem lasts_landing (hinflation : 0 ≤ w.grid.contactInflation)
    (hradius : 0 < worm.radius) : Lasts (w.landing worm) := by
  cases hsamples : sampleCount (Scalar.maxNum worm.position.y 0.0)
    (worm.radius * worm.config.searchStepFraction) with
  | ok n => exact .of_settles (fall_settles hinflation hradius hsamples)
  | error e =>
    simp only [landing, hsamples, error_bind]
    exact .error (lasts_sampleCount _ _ e hsamples)

private theorem lasts_jumpTime (hinflation : 0 ≤ w.grid.contactInflation) {id : EntityId}
    (hradius : ∀ worm, w.worm? id = some worm → 0 < worm.radius) (timeStep : ℝ) :
    Lasts (w.jumpTime id timeStep) := by
  rw [jumpTime, requireWorm]
  cases hworm : w.worm? id with
  | none => exact .error not_false
  | some worm =>
    simp only [ok_bind]
    refine .bind (lasts_jumpLanding hinflation (hradius worm hworm) timeStep) fun landing _ => ?_
    cases landing with
    | none => exact .error not_false
    | some landing => exact .ok _

private theorem lasts_projectileTime (hinflation : 0 ≤ w.grid.contactInflation)
    (hradius : ∀ shot, w.projectile = some shot → 0 < shot.body.radius) (timeStep : ℝ) :
    Lasts (w.projectileTime timeStep) := by
  rw [projectileTime, requireProjectile]
  cases hshot : w.projectile with
  | none => exact .error not_false
  | some shot =>
    simp only [ok_bind]
    exact .bind (lasts_flight hinflation (hradius shot hshot) timeStep) fun _ _ => .ok _

end World

namespace Command

section Lasting

variable {α β : Type}

/-- The command is not refused because samples have run out. -/
def LastsIn (c : Command α β) (s : Simulation α) : Prop :=
  c.Ends s (fun _ _ => True) fun e _ => ¬e.RanOut

private theorem lastsIn_killWorm (s : Simulation α) (id : EntityId) : (killWorm id).LastsIn s := by
  simp only [LastsIn, killWorm, ends_bind, ends_removeWorm, ends_pure]
  exact ⟨fun _ _ _ _ => ⟨fun _ _ => trivial, fun e he => lasts_terminate _ e he⟩,
    fun _ => not_false⟩

private theorem lastsIn_removeProjectile (s : Simulation α) : removeProjectile.LastsIn s :=
  ends_removeProjectile.mpr
    ⟨fun _ _ => ⟨fun _ _ => trivial, fun e he => lasts_terminate _ e he⟩, fun _ => not_false⟩

private theorem lastsIn_land (s : Simulation α) (impact : Impact α) (weapon : WeaponKind) :
    (land impact weapon).LastsIn s := by
  simp only [LastsIn, land, ends_bind, ends_world]
  cases impact with
  | terrain _ | outOfWorld _ =>
    simp only [ends_bind, ends_pure]
    exact lastsIn_removeProjectile s
  | worm target _ _ =>
    simp only [ends_bind, ends_requireWorm, ends_setWorm, ends_ite, ends_pure]
    refine ⟨fun _ _ => ⟨fun _ => ?_, fun _ => lastsIn_removeProjectile _⟩, fun _ => not_false⟩
    exact (lastsIn_killWorm _ target).mono (fun _ s' _ => lastsIn_removeProjectile s')
      fun _ _ h => h

variable [Scalar α]

private theorem lastsIn_eatEach (s : Simulation α) (id : EntityId) (food : List EntityId) :
    (eatEach id food).LastsIn s := by
  induction food generalizing s with
  | nil => exact ends_pure.mpr trivial
  | cons food rest ih =>
    simp only [LastsIn, eatEach, ends_bind, ends_removeFood, ends_requireWorm, ends_lift,
      ends_setWorm]
    refine ⟨fun _ _ => ⟨fun _ _ => ⟨fun worm _ => ⟨fun _ _ => ih _, fun e he => ?_⟩,
      fun _ => not_false⟩, fun e he => lasts_terminate _ e he⟩, fun _ => not_false⟩
    exact lasts_grow worm e he

private theorem lastsIn_eat (s : Simulation α) (id : EntityId) : (eat id).LastsIn s := by
  simp only [LastsIn, eat, ends_bind, ends_requireWorm, ends_world, ends_pure]
  exact ⟨fun _ _ => lastsIn_eatEach s id _, fun _ => not_false⟩

/-- A jump whose samples run out is an impossible one, and is refused as such. -/
theorem lastsIn_jumpWith (s : Simulation α) (id : EntityId) (timeStep : α) :
    (jumpWith id timeStep).LastsIn s := by
  simp only [LastsIn, jumpWith, ends_bind, ends_world, ends_lift]
  refine ⟨fun _ _ => ?_, fun e he => lasts_checkTimeStep timeStep e he⟩
  split
  · rename_i landing _
    simp only [ends_bind, ends_requireWorm, ends_setWorm, ends_lift]
    refine ⟨fun worm _ => ⟨fun placed _ => ?_, fun e he => lasts_setPosition _ _ e he⟩,
      fun _ => not_false⟩
    cases landing with
    | exit _ _ => exact lastsIn_killWorm _ id
    | ground _ _ =>
      simp only [ends_bind, ends_pure]
      exact lastsIn_eat _ id
  · exact ends_throw.mpr not_false

end Lasting

variable {s : Simulation ℝ}

/-- A worm falls without its samples running out. -/
theorem lastsIn_fall (hinflation : 0 ≤ s.world.grid.contactInflation) {id : EntityId}
    (hradius : ∀ worm, s.world.worm? id = some worm → 0 < worm.radius) : (fall id).LastsIn s := by
  simp only [LastsIn, fall, ends_bind, ends_world, ends_ite, ends_throw, ends_requireWorm,
    ends_lift]
  refine ⟨fun _ => not_false, fun _ => ⟨fun worm hworm => ⟨fun landing _ => ?_, fun e he => ?_⟩,
    fun _ => not_false⟩⟩
  · cases landing with
    | none => exact lastsIn_killWorm s id
    | some landed =>
      simp only [ends_bind, ends_lift, ends_setWorm, ends_ite, ends_pure]
      exact ⟨fun _ _ => ⟨fun _ => lastsIn_eat _ id, fun _ => lastsIn_killWorm _ id⟩,
        fun e he => lasts_setPosition worm landed e he⟩
  · exact World.lasts_landing hinflation (hradius worm hworm) e he

/-- A shot is resolved without its samples running out. -/
theorem lastsIn_resolve (hinflation : 0 ≤ s.world.grid.contactInflation)
    (hradius : ∀ shot, s.world.projectile = some shot → 0 < shot.body.radius) (timeStep : ℝ) :
    (resolve timeStep).LastsIn s := by
  simp only [LastsIn, resolve, ends_bind, ends_world, ends_lift, World.requireProjectile]
  cases hshot : s.world.projectile with
  | none =>
    refine ⟨?_, ?_⟩
    · rintro _ ⟨⟩
    · rintro _ ⟨⟩
      exact not_false
  | some shot =>
    refine ⟨?_, ?_⟩
    · rintro _ ⟨⟩
      exact ⟨fun _ _ => lastsIn_land s _ _,
        World.lasts_flight hinflation (hradius shot hshot) timeStep⟩
    · rintro _ ⟨⟩

end Command

namespace Simulation

open Command

variable {s : Simulation ℝ}

/-- The terrain of a game does not shrink discs. -/
theorem Reachable.contactInflation_nonneg (hs : s.Reachable) :
    0 ≤ s.world.grid.contactInflation := by
  have hone := GameConfig.one_le_contactInflation hs.sound.config
  rw [hs.contactInflation_eq]
  norm_num at hone
  linarith

/-- **Searches do not run out of samples.** After its time to sink a trajectory stays below a
height. So every jump, flight and fall of a disc of positive radius is decided within its samples,
once their number has been accepted, and none is refused because samples have run out. -/
theorem Reachable.searches_end (hs : s.Reachable) :
    (∀ (b : Ballistic ℝ) (floor : ℝ), 0 ≤ b.timeToSinkBelow floor ∧
      ∀ t, b.timeToSinkBelow floor < t → (b.positionAt t).y < floor) ∧
    (∀ (worm : Worm ℝ) (timeStep : ℝ), 0 < worm.radius →
      (∀ n, worm.launch.ballistic.canFly = true →
        sampleCount (worm.launch.ballistic.timeToSinkBelow 0.0) timeStep = .ok n →
          (s.world.jumpSampling worm timeStep).Settles n (s.world.jumpLanding worm timeStep)) ∧
      Lasts (s.world.jumpLanding worm timeStep)) ∧
    (∀ (shot : Projectile ℝ) (timeStep : ℝ), 0 < shot.body.radius →
      (∀ n, sampleCount (shot.launch.ballistic.timeToSinkBelow 0.0) timeStep = .ok n →
        (s.world.shotSampling shot timeStep).Settles n (s.world.flight shot timeStep)) ∧
      Lasts (s.world.flight shot timeStep)) ∧
    (∀ worm : Worm ℝ, 0 < worm.radius →
      (∀ n, sampleCount (Scalar.maxNum worm.position.y 0.0)
          (worm.radius * worm.config.searchStepFraction) = .ok n →
        (s.world.fallSampling worm).Settles n (s.world.landing worm)) ∧
      Lasts (s.world.landing worm)) ∧
    (∀ id timeStep, (∀ worm, s.world.worm? id = some worm → 0 < worm.radius) →
      Lasts (s.world.jumpTime id timeStep) ∧ (jumpWith id timeStep).LastsIn s ∧
        (fall id).LastsIn s) ∧
    ∀ timeStep, (∀ shot, s.world.projectile = some shot → 0 < shot.body.radius) →
      Lasts (s.world.projectileTime timeStep) ∧ (resolve timeStep).LastsIn s := by
  have hinflation := hs.contactInflation_nonneg
  refine ⟨fun b floor => ⟨b.timeToSinkBelow_nonneg floor, fun t => ?_⟩,
    fun worm timeStep hradius => ⟨fun n => ?_, ?_⟩,
    fun shot timeStep hradius => ⟨fun n => ?_, ?_⟩,
    fun worm hradius => ⟨fun n => ?_, ?_⟩,
    fun id timeStep hradius => ⟨?_, ?_, ?_⟩, fun timeStep hradius => ⟨?_, ?_⟩⟩
  · exact Ballistic.y_lt_of_timeToSinkBelow_lt
  · exact World.jump_settles hinflation hradius
  · exact World.lasts_jumpLanding hinflation hradius timeStep
  · exact World.flight_settles hinflation hradius
  · exact World.lasts_flight hinflation hradius timeStep
  · exact World.fall_settles hinflation hradius
  · exact World.lasts_landing hinflation hradius
  · exact World.lasts_jumpTime hinflation hradius timeStep
  · exact lastsIn_jumpWith s id timeStep
  · exact lastsIn_fall hinflation hradius
  · exact World.lasts_projectileTime hinflation hradius timeStep
  · exact lastsIn_resolve hinflation hradius timeStep

/-- A worm at the bottom of the world that is about to jump straight up. -/
noncomputable def hopper : Worm ℝ where
  body := ⟨⟨1⟩, ⟨5, 0⟩, 1, 1, .detached⟩
  name := "Ann"
  direction := Real.pi / 2.0
  actionPoints := 0
  hitPoints := 1
  team := none
  weapon := .rifle
  program := none
  config := default

/-- The jump carries the worm's weight and no more. -/
theorem ballistic_hopper : hopper.launch.ballistic = ⟨⟨5, 0⟩, gravity / 2, Real.pi / 2.0⟩ := by
  have hmass : hopper.mass ≠ 0 := by
    have hpi : (Scalar.pi : ℝ) = Real.pi := rfl
    simp only [Worm.mass, Sphere.mass, hopper, Worm.radius, hpi, default, Scalar.cube]
    positivity
  have hforce : hopper.jumpForce = hopper.mass * gravity := by
    simp [Worm.jumpForce, hopper]
  have hspeed : hopper.jumpForce / hopper.mass * 0.5 = gravity / 2 := by
    rw [hforce, mul_div_cancel_left₀ _ hmass]
    ring
  exact congrArg (fun speed => (⟨⟨5, 0⟩, speed, Real.pi / 2.0⟩ : Ballistic ℝ)) hspeed

private theorem rise_hopper : hopper.launch.ballistic.rise = gravity / 2 := by
  have htwo : (2.0 : ℝ) = 2 := by norm_num
  rw [ballistic_hopper, Ballistic.rise, htwo, Real.sin_pi_div_two, mul_one]

private theorem canFly_hopper : hopper.launch.ballistic.canFly = true := by
  have hgravity := gravity_pos
  have hspeed : 0 < hopper.launch.ballistic.velocity := by
    rw [ballistic_hopper]
    exact half_pos hgravity
  have htime : 0 < hopper.launch.ballistic.flightTime := by
    have hrise : hopper.launch.ballistic.flightTime =
        2.0 * hopper.launch.ballistic.rise / gravity := congrArg (· / gravity) (mul_assoc _ _ _)
    rw [hrise, rise_hopper]
    positivity
  simp [Ballistic.canFly, htime, hspeed]

/-- The worm comes down after a second, and two samples go past that. -/
theorem sampleCount_hopper :
    sampleCount (hopper.launch.ballistic.timeToSinkBelow 0.0) 1 = .ok 2 := by
  have hgravity := gravity_pos
  have hdiscriminant : hopper.launch.ballistic.discriminant 0 = (gravity / 2) ^ 2 := by
    rw [Ballistic.discriminant, rise_hopper, ballistic_hopper, sub_self, mul_zero, add_zero]
  have htime : hopper.launch.ballistic.timeToSinkBelow 0.0 = 1 := by
    rw [Scalar.zero_real, Ballistic.timeToSinkBelow_eq, hdiscriminant,
      if_neg (sq_nonneg _).not_gt, Real.sqrt_sq (half_pos hgravity).le, rise_hopper, add_halves,
      div_self hgravity.ne']
    exact max_eq_left zero_le_one
  rw [htime]
  norm_num [sampleCount, maxSamples]

/-- A jump in an empty world, which is decided at the first sample or at the second one. -/
theorem searches_end_hopper :
    let s : Simulation ℝ := { world := .fresh ⟨1⟩ (.empty 10 10) default, ids := ⟨1⟩ }
    s.Reachable ∧ 0 < hopper.radius ∧ hopper.launch.ballistic.canFly = true ∧
      sampleCount (hopper.launch.ballistic.timeToSinkBelow 0.0) 1 = .ok 2 ∧
      (s.world.jumpSampling hopper 1).Settles 2 (s.world.jumpLanding hopper 1) := by
  intro s
  have hs : s.Reachable :=
    .onGrid ⟨1⟩ (World.onGrid_eq_ok_iff.mpr ⟨GameConfig.check_default, rfl⟩)
  have hradius : 0 < hopper.radius := one_pos
  obtain ⟨-, hjump, -⟩ := hs.searches_end
  exact ⟨hs, hradius, canFly_hopper, sampleCount_hopper,
    (hjump hopper 1 hradius).1 2 canFly_hopper sampleCount_hopper⟩

end Simulation

end WormBattle
