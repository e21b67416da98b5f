import WormBattle.Proofs.Physics.Sinking
import WormBattle.Proofs.Terrain.Passability
import WormBattle.Proofs.World.Fan
import WormBattle.Proofs.World.Points

/-!
# The limits of a move

The settings bound a move from below, at a fraction of the radius, and in how far it diverges from
the worm's direction. The fan of a move keeps within these bounds as long as its steps fit into
them. But the number of distances is rounded to the nearest one, and a billionth is added to the
number of divergences before it is rounded down. Where that has carried the number over the number
of steps that fit, the last distance is shorter than the least move, by up to half a step, or the
last divergence is greater than the greatest one, by up to a billionth of a step
(`World.plannedMove_within_iff`). The limits are those of the signed distance and of the turn that
lead to a spot. A distance that is negative by then leads backwards.
-/

namespace WormBattle

open Scalar

/-! ### Counting steps -/

section Steps

variable {span step quotient slack : ℝ} {n : ℕ}

/-- Rounding to the nearest number is rounding down after a half has been added. -/
theorem Scalar.round_real_of_nonneg {x : ℝ} (hx : 0 ≤ x) : Scalar.round x = (⌊x + 0.5⌋ : ℝ) := by
  have hhalf : (1 / 2 : ℝ) = 0.5 := by norm_num
  have hround : Scalar.round x =
      (Exact.truncate (if 0 ≤ x then x + 1 / 2 else x - 1 / 2) : ℝ) := rfl
  rw [hround, if_pos hx, Exact.truncate, if_pos (by linarith), hhalf]

/-- Below zero nothing is counted. -/
theorem Scalar.toNat_maxNum_floor (x : ℝ) : toNat (maxNum (⌊x⌋ : ℝ) 0.0) = ⌊x⌋₊ := by
  rw [Scalar.maxNum_real, Scalar.zero_real, Scalar.toNat_real, ← Int.cast_zero, ← Int.cast_max,
    ← Int.floor_toNat, Int.floor_intCast, ← Int.floor_toNat]
  omega

/-- A count of steps that has been rounded down with some slack exceeds the number of steps that
fit exactly if it is the last one and the slack has carried it over a whole number. -/
theorem natCast_le_iff_of_le_floor (hquotient : 0 ≤ quotient) (hslack : 0 ≤ slack)
    (hone : slack ≤ 1) (hn : n ≤ ⌊quotient + slack⌋₊) :
    (n : ℝ) ≤ quotient ↔ ¬(n = ⌊quotient + slack⌋₊ ∧ 1 ≤ Int.fract quotient + slack) := by
  have hparts : (⌊quotient⌋₊ : ℝ) + Int.fract quotient = quotient := by
    rw [natCast_floor_eq_intCast_floor hquotient, Int.floor_add_fract]
  constructor
  · rintro hle ⟨rfl, hcarried⟩
    have hnext : ⌊quotient⌋₊ + 1 ≤ ⌊quotient + slack⌋₊ := by
      refine Nat.le_floor ?_
      push_cast
      linarith
    have hfloor : ⌊quotient + slack⌋₊ ≤ ⌊quotient⌋₊ := Nat.le_floor hle
    omega
  · intro hnot
    rcases hn.lt_or_eq with hlt | rfl
    · have hnext : ((n + 1 : ℕ) : ℝ) ≤ quotient + slack :=
        (Nat.le_floor_iff (by linarith)).mp hlt
      push_cast at hnext
      linarith
    · have hkept : Int.fract quotient + slack < 1 := not_le.mp fun h => hnot ⟨rfl, h⟩
      have hfloor : ⌊quotient + slack⌋₊ < ⌊quotient⌋₊ + 1 := by
        rw [Nat.floor_lt (by linarith)]
        push_cast
        linarith
      have hle : (⌊quotient + slack⌋₊ : ℝ) ≤ ⌊quotient⌋₊ := by
        exact_mod_cast Nat.le_of_lt_succ hfloor
      linarith [Int.fract_nonneg quotient]

/-- A count of steps that has been rounded down with some slack goes past the span by no more than
the slack. -/
theorem natCast_mul_le_of_le_floor (hspan : 0 ≤ span) (hstep : 0 < step) (hslack : 0 ≤ slack)
    (hn : n ≤ ⌊span / step + slack⌋₊) : n * step ≤ span + slack * step := by
  rw [Nat.le_floor_iff (add_nonneg (div_nonneg hspan hstep.le) hslack)] at hn
  calc n * step ≤ (span / step + slack) * step := mul_le_mul_of_nonneg_right hn hstep.le
    _ = span + slack * step := by rw [add_mul, div_mul_cancel₀ _ hstep.ne']

/-- What can be sampled is not negative. -/
theorem span_nonneg_of_sampleCount (h : sampleCount span step = .ok n) : 0 ≤ span := by
  simp only [sampleCount, Scalar.isFinite_real, Bool.not_true, Bool.false_or, decide_eq_true_eq,
    Scalar.zero_real] at h
  split_ifs at h with hstep hspan
  exact not_lt.mp hspan

end Steps

/-- Whoever goes some way is as far from where he was, forwards or backwards. -/
theorem Position.distance_towards (p : Position ℝ) (angle distance : ℝ) :
    p.distance (p.towards angle distance) = |distance| := by
  have hsq : (p.x - (p.x + distance * Real.cos angle)) ^ 2 +
      (p.y - (p.y + distance * Real.sin angle)) ^ 2 = distance ^ 2 := by
    linear_combination distance ^ 2 * Real.sin_sq_add_cos_sq angle
  rw [Position.distance_real, ← Real.sqrt_sq_eq_abs, ← hsq]
  rfl

/-- A worm of usable settings has an extent. -/
theorem Worm.Made.radius_pos {worm : Worm ℝ} {config : GameConfig ℝ} (hmade : worm.Made)
    (hconfig : worm.config = config.worm) (hcheck : config.check = .ok ()) : 0 < worm.radius := by
  simp only [GameConfig.check, bind_eq_ok_iff] at hcheck
  obtain ⟨_, -, _, -, _, -, _, hradius, -⟩ := hcheck
  have hmin : 0 < worm.config.minRadius := by simpa [checkPositive, hconfig] using hradius
  exact hmin.trans_le (not_lt.mp hmade.inBounds.not_radius_lt)

/-! ### Limits -/

namespace Worm

variable (worm : Worm ℝ)

/-- How many steps of the search fit between the radius and the least move. -/
noncomputable def distanceSteps : ℝ :=
  (1 - worm.config.minMoveFraction) / worm.config.searchStepFraction

/-- How many steps of the search fit into the greatest divergence. -/
noncomputable def divergenceSteps : ℝ :=
  worm.config.maxMoveDivergence / worm.config.moveDivergenceStep

/-- The last distance of the fan is one more than fits, because the number was rounded up. -/
def DistancesOvershoot : Prop :=
  1 ≤ Int.fract worm.distanceSteps + 0.5

/-- The last divergence of the fan is one more than fits, because a billionth was missing and has
been added. -/
def DivergencesOvershoot : Prop :=
  1 ≤ Int.fract worm.divergenceSteps + 1e-9

/-- A distance and a turn that the settings allow. -/
structure Within (distance turn : ℝ) : Prop where
  least : worm.config.minMoveFraction * worm.radius ≤ distance
  most : distance ≤ worm.radius
  turn : |turn| ≤ worm.config.maxMoveDivergence

/-- A distance and a turn of the fan, with their numbers. -/
structure InFan (k j : ℕ) (distance turn : ℝ) : Prop where
  distance_le_last : k ≤ worm.lastDistance
  divergence_le_last : j ≤ worm.lastDivergence
  distance_eq : distance = worm.radius * (1 - k * worm.config.searchStepFraction)
  turn_eq : |turn| = j * worm.config.moveDivergenceStep

/-- Steps that can be taken, over ranges that are not negative. -/
structure Searchable : Prop where
  radius : 0 < worm.radius
  distanceStep : 0 < worm.config.searchStepFraction
  divergenceStep : 0 < worm.config.moveDivergenceStep
  distances : 0 ≤ 1 - worm.config.minMoveFraction
  divergences : 0 ≤ worm.config.maxMoveDivergence

variable {worm} {k j : ℕ} {distance turn : ℝ}

private theorem lastDistance_eq (h : 0 ≤ worm.distanceSteps) :
    worm.lastDistance = ⌊worm.distanceSteps + 0.5⌋₊ := by
  have hone : (1.0 : ℝ) = 1 := by norm_num
  rw [lastDistance, hone, ← distanceSteps, Scalar.round_real_of_nonneg h, Scalar.toNat_maxNum_floor]

private theorem lastDivergence_eq : worm.lastDivergence = ⌊worm.divergenceSteps + 1e-9⌋₊ := by
  rw [lastDivergence, ← divergenceSteps, Scalar.floor_real, Scalar.toNat_maxNum_floor]

namespace Searchable

variable (hw : worm.Searchable)
include hw

private theorem distanceSteps_nonneg : 0 ≤ worm.distanceSteps :=
  div_nonneg hw.distances hw.distanceStep.le

private theorem divergenceSteps_nonneg : 0 ≤ worm.divergenceSteps :=
  div_nonneg hw.divergences hw.divergenceStep.le

/-- A distance is not below the least move exactly if its steps fit. -/
theorem least_le_iff : worm.config.minMoveFraction * worm.radius ≤
    worm.radius * (1 - k * worm.config.searchStepFraction) ↔ (k : ℝ) ≤ worm.distanceSteps := by
  rw [mul_comm, mul_le_mul_iff_right₀ hw.radius, distanceSteps, le_div_iff₀ hw.distanceStep]
  exact le_sub_comm

/-- A divergence is not above the greatest one exactly if its steps fit. -/
theorem turn_le_iff : j * worm.config.moveDivergenceStep ≤ worm.config.maxMoveDivergence ↔
    (j : ℝ) ≤ worm.divergenceSteps :=
  (le_div_iff₀ hw.divergenceStep).symm

/-- No distance of the fan is longer than the radius. -/
theorem distance_le_radius (h : worm.InFan k j distance turn) : distance ≤ worm.radius := by
  rw [h.distance_eq]
  exact mul_le_of_le_one_right hw.radius.le
    (sub_le_self _ (mul_nonneg k.cast_nonneg hw.distanceStep.le))

/-- **A spot of the fan keeps within the limits** exactly if neither its distance nor its divergence
is a last one that overshoots. -/
theorem within_iff (h : worm.InFan k j distance turn) : worm.Within distance turn ↔
    ¬(k = worm.lastDistance ∧ worm.DistancesOvershoot) ∧
      ¬(j = worm.lastDivergence ∧ worm.DivergencesOvershoot) := by
  have hk := h.distance_le_last
  have hj := h.divergence_le_last
  rw [lastDistance_eq hw.distanceSteps_nonneg] at hk ⊢
  rw [lastDivergence_eq] at hj ⊢
  have hdistance :=
    natCast_le_iff_of_le_floor hw.distanceSteps_nonneg (by norm_num) (by norm_num) hk
  have hturn :=
    natCast_le_iff_of_le_floor hw.divergenceSteps_nonneg (by norm_num) (by norm_num) hj
  rw [DistancesOvershoot, DivergencesOvershoot, ← hdistance, ← hturn, ← hw.least_le_iff,
    ← hw.turn_le_iff, ← h.distance_eq, ← h.turn_eq]
  exact ⟨fun hwithin => ⟨hwithin.least, hwithin.turn⟩,
    fun hwithin => ⟨hwithin.1, hw.distance_le_radius h, hwithin.2⟩⟩

/-- A spot of the fan misses the limits by half a step at most, or by a billionth of one. -/
theorem bounds (h : worm.InFan k j distance turn) :
    (worm.config.minMoveFraction - worm.config.searchStepFraction / 2) * worm.radius ≤ distance ∧
      distance ≤ worm.radius ∧
      |turn| ≤ worm.config.maxMoveDivergence + 1e-9 * worm.config.moveDivergenceStep := by
  have hk := h.distance_le_last
  have hj := h.divergence_le_last
  rw [lastDistance_eq hw.distanceSteps_nonneg] at hk
  rw [lastDivergence_eq] at hj
  have hsteps := natCast_mul_le_of_le_floor hw.distances hw.distanceStep (by norm_num) hk
  have hturns := natCast_mul_le_of_le_floor hw.divergences hw.divergenceStep (by norm_num) hj
  have hhalf : (0.5 : ℝ) * worm.config.searchStepFraction = worm.config.searchStepFraction / 2 := by
    ring
  rw [← h.turn_eq] at hturns
  refine ⟨?_, hw.distance_le_radius h, hturns⟩
  rw [h.distance_eq, mul_comm]
  exact mul_le_mul_of_nonneg_left (by linarith) hw.radius.le

end Searchable

end Worm

namespace World

variable {w : World ℝ} {worm : Worm ℝ} {id : EntityId} {spot : Position ℝ}

/-- A search is refused before it begins if its steps or its ranges make no sense. -/
theorem searchable_of_plannedMoveOf {target? : Option (Position ℝ)} (hradius : 0 < worm.radius)
    (h : w.plannedMoveOf worm = .ok target?) : worm.Searchable := by
  simp only [plannedMoveOf, bind_eq_ok_iff] at h
  obtain ⟨distances, hdistances, divergences, hdivergences, -⟩ := h
  have hone : (1.0 : ℝ) = 1 := by norm_num
  rw [hone] at hdistances
  exact ⟨hradius, (sampleCount_eq_ok hdistances).1, (sampleCount_eq_ok hdivergences).1,
    span_nonneg_of_sampleCount hdistances, span_nonneg_of_sampleCount hdivergences⟩

/-- Every spot that a search finds is one of the fan. -/
theorem BestMove.exists_inFan (hw : worm.Searchable) (h : w.BestMove worm (some spot)) :
    ∃ k j distance turn, worm.InFan k j distance turn ∧
      spot = worm.position.towards (worm.direction + turn) distance := by
  have hone : (1.0 : ℝ) = 1 := by norm_num
  cases h with
  | @toContact place hplace =>
    refine ⟨place.distance, place.divergence, _, worm.turnTo place.divergence place.right,
      ⟨hplace.1.1, hplace.1.2.1, rfl, ?_⟩, by rw [Worm.spotAt, Worm.candidate, hone]⟩
    have hangle : 0 ≤ worm.divergence place.divergence :=
      mul_nonneg place.divergence.cast_nonneg hw.divergenceStep.le
    rw [Worm.turnTo]
    split_ifs
    · rw [abs_neg]
      exact abs_of_nonneg hangle
    · exact abs_of_nonneg hangle
  | @ahead k hnone hk =>
    exact ⟨k, 0, _, 0, ⟨hk.1.1, Nat.zero_le _, rfl, by simp⟩, by rw [Worm.ahead, hone, add_zero]⟩

/-- **How far a planned move keeps within its limits.** A worm of usable settings steps to a spot of
its fan, which was reached by a signed distance and a turn. The spot is as far away as that distance
is large, so never farther than the radius. The distance and the turn are within all the limits
exactly if neither is a last one that overshoots: an overshooting distance is below the least move
by half a step at most, and an overshooting turn is above the greatest divergence by a billionth of
a step at most. This is about the distance and the turn, and not about where the spot lies: a
negative distance leads to a spot behind the worm, which may well be far enough away. -/
theorem plannedMove_within_iff (hcheck : w.config.check = .ok ()) (hworm : w.worm? id = some worm)
    (hmade : worm.Made) (hconfig : worm.config = w.config.worm)
    (h : w.plannedMove id = .ok (some spot)) :
    ∃ k j distance turn, worm.InFan k j distance turn ∧
      spot = worm.position.towards (worm.direction + turn) distance ∧
      worm.position.distance spot = |distance| ∧
      ((worm.config.minMoveFraction - worm.config.searchStepFraction / 2) * worm.radius ≤ distance ∧
        distance ≤ worm.radius ∧
        |turn| ≤ worm.config.maxMoveDivergence + 1e-9 * worm.config.moveDivergenceStep) ∧
      (worm.Within distance turn ↔
        ¬(k = worm.lastDistance ∧ worm.DistancesOvershoot) ∧
          ¬(j = worm.lastDivergence ∧ worm.DivergencesOvershoot)) := by
  rw [plannedMove, bind_eq_ok_iff] at h
  obtain ⟨worm', hworm', h⟩ := h
  obtain rfl : worm = worm' := Option.some.inj (hworm.symm.trans (eq_some_of_requireWorm hworm'))
  have hsearchable := searchable_of_plannedMoveOf (hmade.radius_pos hconfig hcheck) h
  obtain ⟨k, j, distance, turn, hfan, rfl⟩ :=
    (bestMove_of_plannedMoveOf h).exists_inFan hsearchable
  exact ⟨k, j, distance, turn, hfan, rfl, Position.distance_towards _ _ _, hsearchable.bounds hfan,
    hsearchable.within_iff hfan⟩

/-! ### A move backwards -/

/-- A wall along the left side of a world. -/
noncomputable def cliff : TerrainGrid ℝ :=
  { TerrainGrid.parapet with
    width := 3.5
    height := 4.5 }

/-- Settings under which a second step of the search leads past the least move. -/
noncomputable def strides : GameConfig ℝ :=
  { (default : GameConfig ℝ) with
    worm :=
      { (default : WormConfig ℝ) with
        maxMoveDivergence := 0
        minMoveFraction := 0.25
        searchStepFraction := 1.5 } }

/-- A worm with its back to the wall. -/
noncomputable def backed : Worm ℝ :=
  .fresh "Ann" ⟨2.5, 2.5⟩ 0 0.5 strides.worm ⟨1⟩

/-- A world with the wall and the worm. -/
noncomputable def brink : World ℝ :=
  { World.fresh ⟨1⟩ cliff strides with worms := [backed] }

private theorem check_strides : strides.check = .ok () := by
  simp only [GameConfig.check, checkTimeStep, checkPositive, strides, default,
    Scalar.isFinite_real, Bool.not_true, Bool.false_or, decide_eq_true_eq, Scalar.zero_real]
  norm_num

private theorem made_backed : backed.Made := by
  have htau : (0 : ℝ) < Scalar.tau := by
    have hpi := Real.pi_pos
    have htwo : (2.0 : ℝ) = 2 := by norm_num
    show (0 : ℝ) < 2.0 * Real.pi
    rw [htwo]
    linarith
  refine .make (Worm.make_eq_ok_iff.mpr ⟨by decide, ?_, ⟨rfl, rfl, ?_⟩, rfl⟩)
  · simp [Angle.isDirection, htau]
  · norm_num [strides, default]

@[simp] private theorem width_brink : brink.grid.width = 3.5 := rfl

@[simp] private theorem height_brink : brink.grid.height = 4.5 := rfl

@[simp] private theorem rows_brink : brink.grid.rows = 1 := rfl

@[simp] private theorem cols_brink : brink.grid.cols = 2 := rfl

@[simp] private theorem contactInflation_brink : brink.grid.contactInflation = 1.1 := rfl

private theorem proper_brink : brink.grid.Proper :=
  ⟨by norm_num, by norm_num, rfl⟩

private theorem nears_brink_iff {x radius : ℝ} (hx : 1.75 ≤ x) (hradius : 0 < radius) :
    brink.grid.Nears ⟨x, 2.5⟩ radius ↔ x - radius < 1.75 := by
  norm_num at hx ⊢
  constructor
  · rintro ⟨row, col, p, hcell, hp, hnear⟩
    obtain ⟨hrow, hcol⟩ := TerrainGrid.cell_eq_false hcell
    obtain rfl : row = 0 := Nat.lt_one_iff.mp hrow
    have hcol : col = 0 ∨ col = 1 := Nat.le_one_iff_eq_zero_or_eq_one.mp (Nat.le_of_lt_succ hcol)
    rcases hcol with rfl | rfl
    · have hright : p.x ≤ 7 / 4 := by
        have hright := hp.right
        norm_num at hright
        exact hright
      rw [Position.distance_lt_iff hradius] at hnear
      nlinarith [sq_nonneg (p.y - 5 / 2)]
    · cases hcell
  · intro hreach
    refine ⟨0, 0, ⟨7 / 4, 5 / 2⟩, rfl, ?_, (Position.distance_lt_iff hradius).mpr (by nlinarith)⟩
    constructor <;> norm_num

private theorem radius_backed : backed.radius = 0.5 := rfl

/-- A full step forwards ends in the open air. -/
theorem classify_brink_ahead : brink.grid.classify ⟨3, 2.5⟩ backed.radius = .ok .passable := by
  rw [radius_backed, proper_brink.classify_eq (by norm_num) (by norm_num), contactInflation_brink,
    if_neg (by rw [nears_brink_iff] <;> norm_num), if_neg (by rw [nears_brink_iff] <;> norm_num)]

/-- Half a step backwards ends at the wall. -/
theorem classify_brink_behind : brink.grid.classify ⟨2.25, 2.5⟩ backed.radius = .ok .contact := by
  rw [radius_backed, proper_brink.classify_eq (by norm_num) (by norm_num), contactInflation_brink,
    if_neg (by rw [nears_brink_iff] <;> norm_num), if_pos (by rw [nears_brink_iff] <;> norm_num)]

private theorem candidate_backed (k : ℕ) : backed.candidate k (backed.divergence 0) =
    ⟨2.5 + 0.5 * (1 - k * 1.5), 2.5⟩ ∧
      backed.candidate k (-backed.divergence 0) = ⟨2.5 + 0.5 * (1 - k * 1.5), 2.5⟩ := by
  have hone : (1.0 : ℝ) = 1 := by norm_num
  have hzero : backed.divergence 0 = 0 := by simp [Worm.divergence]
  have hdirection : backed.direction = 0 := rfl
  have hstep : backed.config.searchStepFraction = 1.5 := rfl
  have hposition : backed.position = ⟨2.5, 2.5⟩ := rfl
  have hcos : Scalar.cos (0 : ℝ) = 1 := Real.cos_zero
  have hsin : Scalar.sin (0 : ℝ) = 0 := Real.sin_zero
  simp only [hzero, neg_zero, Worm.candidate, hone, radius_backed, hdirection, hstep, hposition,
    add_zero, Position.towards, Position.offset, hcos, hsin, mul_zero, mul_one, and_self]

private theorem lastDistance_backed : backed.lastDistance = 1 := by
  have hsteps : backed.distanceSteps = 0.5 := by
    norm_num [Worm.distanceSteps, backed, Worm.fresh, strides]
  rw [Worm.lastDistance_eq (by norm_num [hsteps]), hsteps]
  norm_num

private theorem lastDivergence_backed : backed.lastDivergence = 0 := by
  have hsteps : backed.divergenceSteps = 0 := by
    norm_num [Worm.divergenceSteps, backed, Worm.fresh, strides]
  rw [Worm.lastDivergence_eq, hsteps, Nat.floor_eq_zero]
  norm_num

/-- The worm steps back to the wall. -/
theorem plannedMove_brink : brink.plannedMove ⟨1⟩ = .ok (some ⟨2.25, 2.5⟩) := by
  have hlonger : brink.contactPair backed 0 0 = .ok none := by
    have hspot : (2.5 + 0.5 * (1 - ((0 : ℕ) : ℝ) * 1.5) : ℝ) = 3 := by norm_num
    rw [contactPair, (candidate_backed 0).1, (candidate_backed 0).2, hspot]
    simp [spotIf, classify_brink_ahead, bind, Except.bind, pure, Except.pure]
  have hback : brink.contactPair backed 1 0 = .ok (some ⟨2.25, 2.5⟩) := by
    have hspot : (2.5 + 0.5 * (1 - ((1 : ℕ) : ℝ) * 1.5) : ℝ) = 2.25 := by norm_num
    rw [contactPair, (candidate_backed 1).1, hspot]
    simp [spotIf, classify_brink_behind, bind, Except.bind, pure, Except.pure]
  have hdistances : sampleCount (1.0 - backed.config.minMoveFraction)
      backed.config.searchStepFraction = .ok 2 := by
    norm_num [sampleCount, backed, Worm.fresh, strides, maxSamples]
  have hdivergences : sampleCount backed.config.maxMoveDivergence
      backed.config.moveDivergenceStep = .ok 1 := by
    norm_num [sampleCount, backed, Worm.fresh, strides, default, maxSamples]
  show brink.plannedMoveOf backed = _
  simp [plannedMoveOf, hdistances, hdivergences, lastDistance_backed, lastDivergence_backed,
    firstSome?, hlonger, hback, bind, Except.bind, pure, Except.pure]

/-- The step back is not one that the settings allow. -/
theorem not_within_brink {distance turn : ℝ}
    (h : ⟨2.25, 2.5⟩ = backed.position.towards (backed.direction + turn) distance) :
    ¬backed.Within distance turn := by
  intro hwithin
  have hleast : 0.25 * 0.5 ≤ distance := hwithin.least
  have hstraight : turn = 0 := abs_nonpos_iff.mp hwithin.turn
  have hx : (2.25 : ℝ) = 2.5 + distance * Real.cos (0 + turn) := congrArg Position.x h
  rw [hstraight, add_zero, Real.cos_zero] at hx
  norm_num at hleast hx
  linarith

/-- A worm that steps back to the wall behind it, by the last distance. -/
theorem plannedMove_within_iff_brink :
    (strides.check = .ok () ∧ brink.worm? ⟨1⟩ = some backed ∧ backed.Made ∧
      backed.config = strides.worm ∧ brink.plannedMove ⟨1⟩ = .ok (some ⟨2.25, 2.5⟩)) ∧
    ∃ k j distance turn, backed.InFan k j distance turn ∧ |distance| = 0.25 ∧
      ¬backed.Within distance turn ∧ k = backed.lastDistance ∧ backed.DistancesOvershoot := by
  obtain ⟨k, j, distance, turn, hfan, hspot, hlength, -, hwithin⟩ :=
    plannedMove_within_iff check_strides (rfl : brink.worm? ⟨1⟩ = some backed) made_backed rfl
      plannedMove_brink
  refine ⟨⟨check_strides, rfl, made_backed, rfl, plannedMove_brink⟩, k, j, distance, turn, hfan, ?_,
    not_within_brink hspot, ?_⟩
  · have hsquare : ((2.5 : ℝ) - 2.25) ^ 2 + (2.5 - 2.5) ^ 2 = 0.25 ^ 2 := by norm_num
    have hquarter : backed.position.distance ⟨2.25, 2.5⟩ = √(0.25 ^ 2) := by
      rw [Position.distance_real, ← hsquare]
      rfl
    rw [← hlength, hquarter, Real.sqrt_sq (by norm_num)]
  · have hdivergences : ¬backed.DivergencesOvershoot := by
      norm_num [Worm.DivergencesOvershoot, Worm.divergenceSteps, backed, Worm.fresh, strides]
    by_contra hfits
    exact not_within_brink hspot (hwithin.mpr ⟨hfits, fun h => hdivergences h.2⟩)

/-- Not every planned move keeps within the limits: one may lead backwards. -/
theorem not_always_within : ¬∀ (w : World ℝ) (id : EntityId) (worm : Worm ℝ) (spot : Position ℝ),
    w.config.check = .ok () → 0 ≤ w.config.worm.minMoveFraction →
      w.config.worm.minMoveFraction ≤ 1 → 0 ≤ w.config.worm.maxMoveDivergence →
      w.worm? id = some worm → worm.Made → worm.config = w.config.worm →
      w.plannedMove id = .ok (some spot) →
      ∃ distance turn, spot = worm.position.towards (worm.direction + turn) distance ∧
        worm.Within distance turn := by
  intro h
  have hleast : 0 ≤ strides.worm.minMoveFraction := by norm_num [strides]
  have hmost : strides.worm.minMoveFraction ≤ 1 := by norm_num [strides]
  obtain ⟨distance, turn, hspot, hwithin⟩ := h brink ⟨1⟩ backed ⟨2.25, 2.5⟩ check_strides hleast
    hmost le_rfl rfl made_backed rfl plannedMove_brink
  exact not_within_brink hspot hwithin

end World

end WormBattle
