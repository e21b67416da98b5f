import WormBattle.Proofs.Scalar.Real
import WormBattle.Physics.Ballistic

/-!
# Sinking

In exact arithmetic a trajectory is a parabola that opens downwards. How far it is above a height is
up to a factor the discriminant less a square (`Ballistic.height_above_eq`), and the square exceeds
the discriminant from the larger root on: the trajectory is below the height at every time after
`timeToSinkBelow` (`Ballistic.y_lt_of_timeToSinkBelow_lt`), also where it is never above it and
where the launch is downwards or from below. The samples of a span go past its end
(`sampleCount_eq_ok`), so the last sample of such a trajectory is below the height.
-/

namespace WormBattle

/-- Things fall down. -/
theorem gravity_pos : (0 : ℝ) < gravity := by
  norm_num [gravity]

namespace Ballistic

variable (b : Ballistic ℝ) (floor t : ℝ)

/-- The speed at which the body rises in the beginning. -/
noncomputable def rise : ℝ :=
  b.velocity * Real.sin b.direction

/-- The discriminant of the trajectory at a height. -/
noncomputable def discriminant : ℝ :=
  b.rise ^ 2 + 2.0 * gravity * (b.origin.y - floor)

/-- The speed at which the body sinks after some time is `gravity * t - b.rise`. -/
theorem height_above_eq : 2 * gravity * ((b.positionAt t).y - floor) =
    b.discriminant floor - (gravity * t - b.rise) ^ 2 := by
  have hheight : (b.positionAt t).y = b.origin.y + b.rise * t - gravity / 2.0 * t * t := rfl
  have htwo : (2.0 : ℝ) = 2 := by norm_num
  rw [hheight, discriminant, htwo]
  ring

/-- A flight sinks below the floor at the later of the two times at which it is there, or at once.
-/
theorem timeToSinkBelow_eq : b.timeToSinkBelow floor =
    if b.discriminant floor < 0 then 0
    else max ((b.rise + √(b.discriminant floor)) / gravity) 0 := by
  have hdiscriminant : b.velocity * Scalar.sin b.direction * (b.velocity * Scalar.sin b.direction) +
      2.0 * gravity * (b.origin.y - floor) = b.discriminant floor := by
    rw [discriminant, pow_two]
    rfl
  rw [timeToSinkBelow]
  simp only [hdiscriminant, Scalar.zero_real, Scalar.maxNum_real, Scalar.sqrt_real]
  split_ifs <;> rfl

/-- The time to sink is not in the past. -/
theorem timeToSinkBelow_nonneg : 0 ≤ b.timeToSinkBelow floor := by
  rw [timeToSinkBelow_eq]
  split_ifs
  · exact le_rfl
  · exact le_max_right _ _

variable {b floor t}

/-- **The trajectory stays below a height after the time to sink below it.** -/
theorem y_lt_of_timeToSinkBelow_lt (h : b.timeToSinkBelow floor < t) :
    (b.positionAt t).y < floor := by
  have hsquare : b.discriminant floor < (gravity * t - b.rise) ^ 2 := by
    rw [timeToSinkBelow_eq] at h
    split_ifs at h with hneg
    · exact hneg.trans_le (sq_nonneg _)
    · have hroot : (b.rise + √(b.discriminant floor)) / gravity < t := (le_max_left _ _).trans_lt h
      rw [div_lt_iff₀ gravity_pos] at hroot
      exact Real.lt_sq_of_sqrt_lt (by linarith)
  have hbelow : 2 * gravity * ((b.positionAt t).y - floor) < 0 := by
    rw [height_above_eq]
    linarith
  have hfactor : (0 : ℝ) < 2 * gravity := by linarith [gravity_pos]
  linarith [neg_of_mul_neg_right hbelow hfactor.le]

end Ballistic

/-- The samples of a span go past its end. -/
theorem sampleCount_eq_ok {span step : ℝ} {n : ℕ} (h : sampleCount span step = .ok n) :
    0 < step ∧ 1 ≤ n ∧ span < n * step := by
  have hone : (1.0 : ℝ) = 1 := by norm_num
  simp only [sampleCount, Scalar.isFinite_real, Bool.not_true, Bool.false_or, decide_eq_true_eq,
    Scalar.zero_real, Scalar.ceil_real, Scalar.toNat_real, hone] at h
  split_ifs at h with hstep hspan hmany
  have hstep : 0 < step := not_le.mp hstep
  have hspan : 0 ≤ span / step := div_nonneg (not_lt.mp hspan) hstep.le
  have hcount : n = ⌈span / step⌉.toNat + 1 := by
    have hceil : (0 : ℤ) ≤ ⌈span / step⌉ := Int.ceil_nonneg hspan
    have hn : n = ⌊((⌈span / step⌉ : ℝ) + 1)⌋₊ := (Except.ok.inj h).symm
    rw [hn, ← Int.cast_one, ← Int.cast_add, ← Int.floor_toNat, Int.floor_intCast]
    omega
  refine ⟨hstep, by omega, ?_⟩
  rw [← div_lt_iff₀ hstep, hcount]
  push_cast
  have hle : span / step ≤ (⌈span / step⌉.toNat : ℝ) := by
    refine (Int.le_ceil _).trans ?_
    exact_mod_cast Int.self_le_toNat ⌈span / step⌉
  linarith

end WormBattle
