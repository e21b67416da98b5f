import WormBattle.Proofs.Scalar.Rational
import WormBattle.Proofs.Terrain.Passability
import WormBattle.Proofs.World.Limits
import WormBattle.Proofs.World.Searches
import WormBattle.Proofs.World.Stuck

/-!
# Falls

A worm that survives its fall and stays in the world has landed in one of two ways (`World.Lands`).
Either it touches terrain, or the next sample already lies in terrain and it is at the last spot in
the open air. In the second way it still hangs in the air and can fall again
(`Simulation.Reachable.landed`).

Whether a fall may end in the air is a matter of the settings. Terrain that a step down would run
into is less than a step away from the disc (`TerrainGrid.Nears.lifted`). If a step is not longer
than the margin by which discs are inflated, then the disc is already in contact with it. So a worm
that falls in such steps always comes down to the ground, when arithmetic is exact
(`Simulation.Reachable.comes_down`).
-/

namespace WormBattle

variable {α : Type} [Scalar α]

namespace World

variable {w : World α} {worm : Worm α} {landed : Position α}

/-- A fall that has landed somewhere went down in steps. -/
theorem step_of_landing (h : w.landing worm = .ok (some landed)) :
    ¬worm.radius * worm.config.searchStepFraction ≤ 0.0 := by
  rw [landing, bind_eq_ok_iff] at h
  obtain ⟨samples, hsamples, -⟩ := h
  rw [sampleCount] at hsamples
  split at hsamples
  · cases hsamples
  · rename_i hstep
    simp only [Bool.or_eq_true, decide_eq_true_eq, not_or] at hstep
    exact hstep.2

/-- Rations that a worm has eaten are gone. -/
theorem rationsAt_eq_nil (h : (w.fed worm (w.rationsAt worm)).food = w.food) :
    w.rationsAt worm = [] := by
  refine List.eq_nil_iff_forall_not_mem.mpr fun ration hration => ?_
  obtain ⟨food, hfood, rfl⟩ := List.mem_map.mp hration
  have hkept : food ∈ (w.fed worm (w.rationsAt worm)).food := h ▸ (List.mem_filter.mp hfood).1
  have hnot : food.id ∉ w.rationsAt worm := by simpa using (List.mem_filter.mp hkept).2
  exact hnot hration

end World

namespace Simulation

variable {s s' : Simulation α} {id : EntityId} {after : Worm α}

/-- A worm that is still there after its fall, and that has eaten nothing, is where it landed. -/
theorem Reachable.exists_lands (hs : s.Reachable)
    (hdone : (Operation.fall id).command.carryOut s = (.ok (), s'))
    (hafter : s'.world.worm? id = some after) (hfood : s'.world.food = s.world.food) :
    ∃ worm k location, s.world.worm? id = some worm ∧ s.world.Lands worm k location ∧
      (after.position = worm.fallSpot k ∧ after.radius = worm.radius ∧
        ¬worm.radius * worm.config.searchStepFraction ≤ 0.0) ∧
      s'.world.locationOf id = .ok location ∧
      s'.world.canFall id = decide (location = .passable) := by
  obtain ⟨-, -, hgone | ⟨worm, landed, hworm, hfall, hlanding, hfed⟩⟩ :=
    (Command.ends_fall hs.sound id).of_ok hdone
  · cases hgone.symm.trans hafter
  obtain rfl := World.id_of_worm? hworm
  obtain ⟨k, location, hlands, rfl⟩ := World.lands_of_landing hworm hfall hlanding
  have hnothing : s.world.rationsAt (worm.fallen (worm.fallSpot k)) = [] := by
    rw [hfed] at hfood
    exact World.rationsAt_eq_nil hfood
  rw [hnothing] at hfed
  have hgrid : s'.world.grid = s.world.grid := by
    rw [hfed]
    rfl
  have hthere : s'.world.worm? worm.id = some (worm.fallen (worm.fallSpot k)) := by
    rw [hfed]
    exact World.worm?_setWorm_self (w := { s.world with food := _ }) hworm
  obtain rfl := Option.some.inj (hthere.symm.trans hafter)
  -- The body is the one that has fallen, at the spot where it has landed.
  have hposition : (worm.fallen (worm.fallSpot k)).position = worm.fallSpot k := rfl
  have hradius : (worm.fallen (worm.fallSpot k)).radius = worm.radius := rfl
  refine ⟨worm, k, location, hworm, hlands, ⟨rfl, rfl, World.step_of_landing hlanding⟩, ?_, ?_⟩
  · rw [World.locationOf, World.requireWorm, hafter, hgrid]
    exact hlands.classify
  · simp only [World.canFall, hafter, hgrid, hposition, hradius, hlands.isInside, hlands.classify]
    cases location <;> rfl

/-- **A fall ends straight below, and either on the ground or less than a step above it.** A worm
that is still there and that has eaten nothing is some steps below the spot where it hung. All the
discs above are in the open air. Where it is it either touches terrain and cannot fall any more, or
it still hangs in the air and can fall again, and then the disc that is one step lower lies in
terrain. -/
theorem Reachable.landed (hs : s.Reachable)
    (hdone : (Operation.fall id).command.carryOut s = (.ok (), s'))
    (hafter : s'.world.worm? id = some after) (hfood : s'.world.food = s.world.food) :
    ∃ worm k, s.world.worm? id = some worm ∧
      (after.position = worm.fallSpot k ∧ after.position.x = worm.position.x ∧
        after.radius = worm.radius ∧ ¬worm.radius * worm.config.searchStepFraction ≤ 0.0) ∧
      (∀ j < k, s.world.grid.classify (worm.fallSpot j) worm.radius = .ok .passable) ∧
      (s'.world.locationOf id = .ok .contact ∧ s'.world.canFall id = false ∨
        s'.world.locationOf id = .ok .passable ∧ s'.world.canFall id = true ∧
          s.world.grid.classify (worm.fallSpot (k + 1)) worm.radius = .ok .impassable) := by
  obtain ⟨worm, k, location, hworm, hlands, ⟨hposition, hradius, hstep⟩, hlocation, hcan⟩ :=
    hs.exists_lands hdone hafter hfood
  have hx : after.position.x = worm.position.x := by
    rw [hposition]
    cases k <;> rfl
  refine ⟨worm, k, hworm, ⟨hposition, hx, hradius, hstep⟩, fun j hj => (hlands.above j hj).2, ?_⟩
  rw [hlocation, hcan]
  cases hlands with
  | touching => exact .inl ⟨rfl, rfl⟩
  | hanging _ _ hblocked => exact .inr ⟨rfl, rfl, hblocked⟩

/-- A worm that hangs over flat ground and falls in long steps. -/
def plunge : Simulation Rat :=
  let ground : TerrainGrid Rat :=
    { TerrainGrid.empty 10 10 with
      rows := 2
      cols := 3
      cells := #[true, true, true, false, false, false]
      size_cells := rfl }
  let config : GameConfig Rat :=
    { (default : GameConfig Rat) with
      worm := { (default : WormConfig Rat) with searchStepFraction := 1 } }
  let start : Simulation Rat := { world := .fresh ⟨1⟩ ground config, ids := ⟨2⟩ }
  start.after [.addWorm (.fresh "Ann" ⟨5, 6.25⟩ 0 0.5 config.worm ⟨1⟩)]

private theorem reachable_plunge : plunge.Reachable := by
  refine (Reachable.onGrid ⟨2⟩ (World.onGrid_eq_ok_iff.mpr ⟨?_, rfl⟩)).after
    ⟨⟨.make (Worm.make_eq_ok_iff.mpr ⟨?_, ?_, ?_, rfl⟩), ?_⟩, trivial⟩
  all_goals decide +kernel

private theorem carryOut_fall_plunge :
    (Operation.fall ⟨1⟩).command.carryOut plunge = (.ok (), plunge.after [.fall ⟨1⟩]) := by
  have hdone : ((Operation.fall ⟨1⟩).command.carryOut plunge).1.isOk = true := by decide +kernel
  obtain ⟨⟨⟩, hfallen⟩ := Command.exists_of_isOk hdone
  exact hfallen

private theorem food_plunge : (plunge.after [.fall ⟨1⟩]).world.food = plunge.world.food := by
  have hbefore : plunge.world.food.length = 0 := by decide +kernel
  have hafter : (plunge.after [.fall ⟨1⟩]).world.food.length = 0 := by decide +kernel
  rw [List.eq_nil_of_length_eq_zero hbefore, List.eq_nil_of_length_eq_zero hafter]

/-- The worm falls by one step and still hangs in the air. -/
theorem landed_plunge : ∃ worm after k, plunge.world.worm? ⟨1⟩ = some worm ∧
    (plunge.after [.fall ⟨1⟩]).world.worm? ⟨1⟩ = some after ∧ after.position = worm.fallSpot k ∧
      (plunge.after [.fall ⟨1⟩]).world.canFall ⟨1⟩ = true ∧
      plunge.world.grid.classify (worm.fallSpot (k + 1)) worm.radius = .ok .impassable := by
  have hthere : ((plunge.after [.fall ⟨1⟩]).world.worm? ⟨1⟩).isSome = true := by decide +kernel
  obtain ⟨after, hafter⟩ := Option.isSome_iff_exists.mp hthere
  obtain ⟨worm, k, hworm, ⟨hposition, -⟩, -, ⟨-, hground⟩ | ⟨-, hhangs, hblocked⟩⟩ :=
    reachable_plunge.landed carryOut_fall_plunge hafter food_plunge
  · have hhangs : (plunge.after [.fall ⟨1⟩]).world.canFall ⟨1⟩ = true := by decide +kernel
    cases hhangs.symm.trans hground
  · exact ⟨worm, after, k, hworm, hafter, hposition, hhangs, hblocked⟩

/-- A fall does not always end in contact with terrain: the worm may still hang in the air. -/
theorem not_always_on_the_ground : ¬∀ (s s' : Simulation Rat) (id : EntityId) (worm : Worm Rat),
    s.Reachable → s.world.config.check = .ok () → s.world.worm? id = some worm → worm.Made →
      worm.config = s.world.config.worm →
      (Operation.fall id).command.carryOut s = (.ok (), s') → (s'.world.worm? id).isSome = true →
      s'.world.food = s.world.food → s'.world.locationOf id = .ok .contact := by
  intro h
  have hcheck : plunge.world.config.check = .ok () := by decide +kernel
  have hthere : ((plunge.after [.fall ⟨1⟩]).world.worm? ⟨1⟩).isSome = true := by decide +kernel
  have hlocation : (plunge.after [.fall ⟨1⟩]).world.locationOf ⟨1⟩ = .ok .passable := by
    decide +kernel
  have hlisted : (plunge.world.worm? ⟨1⟩).isSome = true := by decide +kernel
  obtain ⟨worm, hworm⟩ := Option.isSome_iff_exists.mp hlisted
  have hmade : worm.Made := reachable_plunge.sound.made worm (World.mem_of_worm? hworm)
  have hconfig : worm.config = plunge.world.config.worm := by
    have hconfigs : (plunge.world.worm? ⟨1⟩).map Worm.config = some plunge.world.config.worm := by
      rfl
    rw [hworm] at hconfigs
    exact Option.some.inj hconfigs
  cases hlocation.symm.trans (h plunge _ ⟨1⟩ worm reachable_plunge hcheck hworm hmade hconfig
    carryOut_fall_plunge hthere food_plunge)

end Simulation

/-! ### Down to the ground -/

namespace TerrainGrid

variable {g : TerrainGrid ℝ} {centre : Position ℝ} {x y step radius : ℝ}

/-- What comes near a disc comes near a larger disc above it. -/
theorem Nears.lifted (hradius : 0 < radius) (hstep : 0 ≤ step)
    (h : g.Nears ⟨x, y - step⟩ radius) : g.Nears ⟨x, y⟩ (radius + step) := by
  obtain ⟨row, col, p, hcell, hp, hnear⟩ := h
  refine ⟨row, col, p, hcell, hp, ?_⟩
  rw [Position.distance_lt_iff hradius] at hnear
  rw [Position.distance_lt_iff (by linarith)]
  have hbelow : -radius < p.y - (y - step) := by
    refine (abs_lt.mp (abs_lt_of_sq_lt_sq ?_ hradius.le)).1
    linarith [sq_nonneg (p.x - x)]
  nlinarith

/-- Only a raster that has an extent can be in the way of a disc inside it. -/
theorem proper_of_impassable (hradius : 0 < radius) (hinside : g.isInside centre radius = true)
    (h : g.classify centre radius = .ok .impassable) : g.Proper := by
  simp only [isInside, Bool.and_eq_true, decide_eq_true_eq, Scalar.zero_real] at hinside
  obtain ⟨⟨⟨hleft, hright⟩, hbottom⟩, htop⟩ := hinside
  refine ⟨by linarith, by linarith, ?_⟩
  by_contra hempty
  have hempty : g.isDegenerate = true := by simpa using hempty
  have hdisc : checkDisc centre radius = .ok () := by simp [checkDisc, hradius.le]
  have hfree : g.isPassable centre radius = .ok true := by
    rw [isPassable, hdisc, ok_bind, if_pos hempty]
    rfl
  rw [classify, hfree, ok_bind, if_neg (by decide), bind_eq_ok_iff] at h
  obtain ⟨clear, -, h⟩ := h
  split at h <;> cases h

end TerrainGrid

/-- A fall in steps that are not longer than the margin by which discs are inflated does not end in
the air: terrain a step below a disc touches it. -/
theorem World.Lands.eq_contact {w : World ℝ} {worm : Worm ℝ} {k : ℕ} {location : Location}
    (hradius : 0 < worm.radius) (hstep : 0 < worm.config.searchStepFraction)
    (hfine : 1 + worm.config.searchStepFraction ≤ w.grid.contactInflation)
    (h : w.Lands worm k location) : location = .contact := by
  cases h with
  | touching => rfl
  | hanging hopen hinside hblocked =>
    exfalso
    let step := worm.radius * worm.config.searchStepFraction
    have hg := TerrainGrid.proper_of_impassable hradius hinside hblocked
    have hinflation : 0 < w.grid.contactInflation := by linarith
    have hnext : worm.fallSpot (k + 1) = ⟨(worm.fallSpot k).x, (worm.fallSpot k).y - step⟩ := by
      cases k with
      | zero => simp [Worm.fallSpot, trail, Worm.fallSample, step]
      | succ k =>
        simp only [Worm.fallSpot, trail, Worm.fallSample, step]
        push_cast
        ring_nf
    have hnear := (hg.classify_eq_impassable_iff hinflation hradius _).mp hblocked
    have hclear := (hg.classify_eq_passable_iff hinflation hradius _).mp (hopen k le_rfl).2
    rw [hnext] at hnear
    refine hclear.2 ?_
    refine (hnear.lifted hradius (mul_pos hradius hstep).le).mono ?_
    calc worm.radius + step = worm.radius * (1 + worm.config.searchStepFraction) := by ring
      _ ≤ worm.radius * w.grid.contactInflation := mul_le_mul_of_nonneg_left hfine hradius.le

/-- **A worm that falls in short steps comes down to the ground.** The default settings are such
that it does. -/
theorem Simulation.Reachable.comes_down {s s' : Simulation ℝ} {id : EntityId} {worm after : Worm ℝ}
    (hs : s.Reachable) (hworm : s.world.worm? id = some worm)
    (hconfig : worm.config = s.world.config.worm)
    (hfine : 1 + s.world.config.worm.searchStepFraction ≤ s.world.config.terrain.contactInflation)
    (hdone : (Operation.fall id).command.carryOut s = (.ok (), s'))
    (hafter : s'.world.worm? id = some after) (hfood : s'.world.food = s.world.food) :
    s'.world.locationOf id = .ok .contact ∧ s'.world.canFall id = false := by
  obtain ⟨worm', k, location, hworm', hlands, ⟨-, -, hstep⟩, hlocation, hcan⟩ :=
    hs.exists_lands hdone hafter hfood
  cases hworm.symm.trans hworm'
  have hradius : 0 < worm.radius :=
    (hs.sound.made worm (World.mem_of_worm? hworm)).radius_pos hconfig hs.sound.config
  have hpositive : 0 < worm.config.searchStepFraction := by
    rw [Scalar.zero_real, not_le] at hstep
    exact (mul_pos_iff_of_pos_left hradius).mp hstep
  rw [← hconfig, ← hs.contactInflation_eq] at hfine
  obtain rfl := hlands.eq_contact hradius hpositive hfine
  exact ⟨hlocation, hcan⟩

end WormBattle
