import Mathlib.Analysis.SpecialFunctions.Trigonometric.Angle
import WormBattle.Proofs.Entity.Worm
import WormBattle.Proofs.Scalar.Real

/-!
# Turning

A rotation has one name among the directions, from zero up to and without the full circle, and one
among the turns, which go the short way round. In exact arithmetic `Angle.toDirection` and
`Angle.toTurn` find them (`Angle.toDirection_eq_iff`, `Angle.toTurn_eq_iff`): a remainder cut
towards zero is less than the divisor either way (`Exact.abs_sub_truncate_lt`), so one full circle
more makes it a direction if it is negative, and one less makes a turn of a direction.

So a worm's turn depends on the rotation alone. It is charged for by the length of the way, which is
the same both ways and at most half a circle (`Worm.turns_short_way`).
-/

namespace WormBattle

open Scalar

/-! ### Remainders -/

/-- Cutting off the fraction changes a number by less than one. -/
theorem Exact.abs_sub_truncate_lt (x : ℝ) : |x - Exact.truncate x| < 1 := by
  rw [Exact.truncate, abs_lt]
  split_ifs
  · constructor <;> linarith [Int.floor_le x, Int.lt_floor_add_one x]
  · constructor <;> linarith [Int.le_ceil x, Int.ceil_lt_add_one x]

namespace Scalar

private theorem pi_real : (pi : ℝ) = Real.pi := rfl

private theorem tau_real : (tau : ℝ) = 2 * Real.pi := by
  show (2.0 : ℝ) * Real.pi = 2 * Real.pi
  norm_num

private theorem rem_real (x y : ℝ) : rem x y = x - y * Exact.truncate (x / y) := rfl

private theorem abs_rem_lt (x : ℝ) {y : ℝ} (hy : 0 < y) : |rem x y| < y := by
  have hrem : rem x y = y * (x / y - Exact.truncate (x / y)) := by
    rw [rem_real, mul_sub, mul_div_cancel₀ x hy.ne']
  rw [hrem, abs_mul, abs_of_pos hy]
  exact mul_lt_of_lt_one_right hy (Exact.abs_sub_truncate_lt _)

end Scalar

/-! ### Directions and turns -/

namespace Angle

/-- Wrapping leaves a remainder on division by the full circle that is not negative. -/
theorem wrap_real (angle : ℝ) : wrap angle = toIcoMod Real.two_pi_pos 0 angle := by
  refine ((toIcoMod_eq_iff Real.two_pi_pos).mpr ?_).symm
  have hrem := rem_real angle (2 * Real.pi)
  obtain ⟨hlow, hhigh⟩ := abs_lt.mp (abs_rem_lt angle Real.two_pi_pos)
  simp only [wrap, tau_real, zero_real, abs_real, abs_of_pos Real.two_pi_pos]
  split_ifs with hneg
  · refine ⟨⟨by linarith, by linarith⟩, Exact.truncate (angle / (2 * Real.pi)) - 1, ?_⟩
    rw [zsmul_eq_mul, hrem]
    push_cast
    ring
  · refine ⟨⟨not_lt.mp hneg, by linarith⟩, Exact.truncate (angle / (2 * Real.pi)), ?_⟩
    rw [zsmul_eq_mul, hrem]
    ring

/-- Without rounding the full circle is not reached. -/
theorem toDirection_real (angle : ℝ) : toDirection angle = toIcoMod Real.two_pi_pos 0 angle := by
  have hless : toIcoMod Real.two_pi_pos 0 angle < 2 * Real.pi := (toIcoMod_mem_Ico' _ angle).2
  simp only [toDirection, wrap_real, tau_real, if_neg (not_le.mpr hless)]

variable {angle other d : ℝ}

/-- **The direction of an angle** is the one number from zero up to the full circle that is
congruent to it. -/
theorem toDirection_eq_iff : toDirection angle = d ↔
    (0 ≤ d ∧ d < 2 * Real.pi) ∧ ∃ n : ℤ, d - angle = 2 * Real.pi * n := by
  rw [toDirection_real, toIcoMod_eq_iff, zero_add, Set.mem_Ico]
  refine and_congr_right fun _ => ?_
  constructor
  · rintro ⟨z, rfl⟩
    refine ⟨-z, ?_⟩
    rw [zsmul_eq_mul]
    push_cast
    ring
  · rintro ⟨n, hn⟩
    refine ⟨-n, ?_⟩
    rw [zsmul_eq_mul]
    push_cast
    linarith

/-- The turn of an angle is the number that stands for its rotation. -/
theorem toTurn_real (angle : ℝ) : toTurn angle = (angle : Real.Angle).toReal := by
  obtain ⟨⟨hlow, hhigh⟩, hcongr⟩ := toDirection_eq_iff.mp (rfl : toDirection angle = _)
  have hsame : ((toDirection angle : ℝ) : Real.Angle) = angle :=
    Real.Angle.angle_eq_iff_two_pi_dvd_sub.mpr hcongr
  simp only [toTurn, tau_real, pi_real, ← hsame]
  split_ifs with hwide
  · -- The way round is longer than half a circle, so the other way is taken.
    have hmem : -Real.pi < toDirection angle - 2 * Real.pi ∧
        toDirection angle - 2 * Real.pi ≤ Real.pi := ⟨by linarith, by linarith⟩
    rw [← Real.Angle.toReal_coe_eq_self_iff.mpr hmem, Real.Angle.coe_sub, Real.Angle.coe_two_pi,
      sub_zero]
  · have hmem : -Real.pi < toDirection angle ∧ toDirection angle ≤ Real.pi :=
      ⟨by linarith [Real.pi_pos], not_lt.mp hwide⟩
    exact (Real.Angle.toReal_coe_eq_self_iff.mpr hmem).symm

/-- **The turn of an angle** is the one number above minus half a circle and up to half a circle
that is congruent to it. -/
theorem toTurn_eq_iff : toTurn angle = d ↔
    (-Real.pi < d ∧ d ≤ Real.pi) ∧ ∃ n : ℤ, d - angle = 2 * Real.pi * n := by
  rw [toTurn_real, ← Real.Angle.angle_eq_iff_two_pi_dvd_sub]
  constructor
  · rintro rfl
    exact ⟨(angle : Real.Angle).toReal_mem_Ioc, Real.Angle.coe_toReal _⟩
  · rintro ⟨hmem, hsame⟩
    rw [← hsame, Real.Angle.toReal_coe_eq_self_iff.mpr hmem]

/-- Congruent angles have the same direction. -/
theorem toDirection_congr (h : (angle : Real.Angle) = other) :
    toDirection angle = toDirection other := by
  obtain ⟨hmem, hcongr⟩ := toDirection_eq_iff.mp (rfl : toDirection other = _)
  refine toDirection_eq_iff.mpr ⟨hmem, ?_⟩
  rw [← Real.Angle.angle_eq_iff_two_pi_dvd_sub] at hcongr ⊢
  rw [hcongr, h]

end Angle

/-! ### Costs -/

/-- A larger fraction never costs less. -/
theorem ceilCost_mono : Monotone (ceilCost : ℝ → ℕ) := by
  intro x y h
  simp only [ceilCost, toPoints, maxNum_real, ceil_real, toNat_real]
  gcongr

namespace Worm

variable {worm worm' : Worm ℝ} {angle other : ℝ}

private theorem turnCost_real (worm : Worm ℝ) (angle : ℝ) : worm.turnCost angle =
    .ok (ceilCost (worm.config.turnCostFullCircle * |(angle : Real.Angle).toReal| /
      (2 * Real.pi))) := by
  rw [← Angle.toTurn_real, ← tau_real]
  rfl

/-- Congruent angles cost the same. -/
theorem turnCost_congr (worm : Worm ℝ) (h : (angle : Real.Angle) = other) :
    worm.turnCost angle = worm.turnCost other := by
  rw [turnCost_real, turnCost_real, h]

/-- The way back costs the same. -/
theorem turnCost_neg (worm : Worm ℝ) (angle : ℝ) :
    worm.turnCost (-angle) = worm.turnCost angle := by
  rw [turnCost_real, turnCost_real, Real.Angle.coe_neg, Real.Angle.abs_toReal_neg]

/-- **No turn costs more than half a circle**, since there is always a way that is not longer. -/
theorem exists_turnCost_le (hcost : 0 ≤ worm.config.turnCostFullCircle) (angle : ℝ) :
    ∃ cost half, worm.turnCost angle = .ok cost ∧ worm.turnCost Real.pi = .ok half ∧
      cost ≤ half := by
  refine ⟨_, _, turnCost_real worm angle, turnCost_real worm Real.pi, ceilCost_mono ?_⟩
  have hway : |(angle : Real.Angle).toReal| ≤ |(Real.pi : Real.Angle).toReal| := by
    rw [Real.Angle.toReal_pi, abs_of_pos Real.pi_pos]
    exact Real.Angle.abs_toReal_le_pi _
  have hfull := Real.two_pi_pos
  gcongr

/-- Turning by congruent angles has the same result, done or refused. -/
theorem turn_congr (worm : Worm ℝ) (h : (angle : Real.Angle) = other) :
    worm.turn angle = worm.turn other := by
  have hdirection : ∀ facing : ℝ,
      Angle.toDirection (facing + angle) = Angle.toDirection (facing + other) := by
    intro facing
    refine Angle.toDirection_congr ?_
    rw [Real.Angle.coe_add, Real.Angle.coe_add, h]
  simp only [turn, turnCost_congr worm h, hdirection]

/-- **Turns go the short way round.** Directions and turns are the representatives of the angles in
their intervals. What a turn costs is the same for all congruent angles and for the way back, and
never more than half a circle costs. A worm that has turned faces the direction of the sum, and it
does not matter whether it was told the angle or the turn that the angle amounts to. -/
theorem turns_short_way (worm : Worm ℝ) (hcost : 0 ≤ worm.config.turnCostFullCircle)
    (angle : ℝ) :
    (∀ d, Angle.toDirection angle = d ↔
      (0 ≤ d ∧ d < 2 * Real.pi) ∧ ∃ n : ℤ, d - angle = 2 * Real.pi * n) ∧
    (∀ d, Angle.toTurn angle = d ↔
      (-Real.pi < d ∧ d ≤ Real.pi) ∧ ∃ n : ℤ, d - angle = 2 * Real.pi * n) ∧
    worm.turnCost (-angle) = worm.turnCost angle ∧
    (∀ n : ℤ, worm.turnCost (angle + 2 * Real.pi * n) = worm.turnCost angle) ∧
    (∃ cost half, worm.turnCost angle = .ok cost ∧ worm.turnCost Real.pi = .ok half ∧
      cost ≤ half) ∧
    (∀ worm', worm.turn angle = .ok worm' →
      (0 ≤ worm'.direction ∧ worm'.direction < 2 * Real.pi) ∧
        ∃ n : ℤ, worm'.direction - (worm.direction + angle) = 2 * Real.pi * n) ∧
    worm.turnCost (Angle.toTurn angle) = worm.turnCost angle ∧
    worm.turn (Angle.toTurn angle) = worm.turn angle := by
  have hturn : ((Angle.toTurn angle : ℝ) : Real.Angle) = angle := by
    rw [Angle.toTurn_real, Real.Angle.coe_toReal]
  refine ⟨fun _ => Angle.toDirection_eq_iff, fun _ => Angle.toTurn_eq_iff, worm.turnCost_neg angle,
    fun n => ?_, exists_turnCost_le hcost angle, ?_, worm.turnCost_congr hturn,
    worm.turn_congr hturn⟩
  · refine worm.turnCost_congr (Real.Angle.angle_eq_iff_two_pi_dvd_sub.mpr ⟨n, ?_⟩)
    ring
  · intro worm' h
    obtain ⟨cost, -, -, rfl⟩ := turn_eq_ok_iff.mp h
    exact Angle.toDirection_eq_iff.mp rfl

/-- A quarter of a circle costs a quarter of the 60 points of the full circle. -/
theorem ceilCost_quarter : ceilCost (60.0 * |Real.pi / 2| / (2 * Real.pi)) = 15 := by
  have hpi := Real.pi_pos
  have hquarter : 60.0 * |Real.pi / 2| / (2 * Real.pi) = 15 := by
    rw [abs_of_pos (by positivity)]
    field_simp
    norm_num
  have hceil : ⌈(15 : ℝ) - 1e-9⌉ = 15 := by
    rw [Int.ceil_eq_iff]
    norm_num
  simp only [hquarter, ceilCost, toPoints, maxNum_real, ceil_real, hceil, toNat_real, maxPoints]
  norm_num

/-- A new worm with the default settings. -/
noncomputable def novice : Worm ℝ :=
  .fresh "Ann" ⟨0, 0⟩ 0 0.5 default ⟨1⟩

/-- Three quarters to the left are one quarter to the right, and cost as much as one to the left. -/
theorem turns_short_way_novice : 0 ≤ novice.config.turnCostFullCircle ∧
    Angle.toTurn (3 * (Real.pi / 2)) = -(Real.pi / 2) ∧
    novice.turnCost (3 * (Real.pi / 2)) = novice.turnCost (Real.pi / 2) ∧
    novice.turnCost (Real.pi / 2) = .ok 15 := by
  have hcost : 0 ≤ novice.config.turnCostFullCircle := by
    show (0 : ℝ) ≤ 60.0
    norm_num
  have hpi := Real.pi_pos
  obtain ⟨-, hturn, -, -, -, -, hsame, -⟩ := novice.turns_short_way hcost (3 * (Real.pi / 2))
  have hright : Angle.toTurn (3 * (Real.pi / 2)) = -(Real.pi / 2) := by
    refine (hturn _).mpr ⟨⟨by linarith, by linarith⟩, -1, ?_⟩
    push_cast
    ring
  obtain ⟨-, -, hback, -⟩ := novice.turns_short_way hcost (Real.pi / 2)
  refine ⟨hcost, hright, ?_, ?_⟩
  · rw [← hsame, hright, hback]
  · rw [turnCost_real, Real.Angle.toReal_pi_div_two]
    exact congrArg Except.ok ceilCost_quarter

end Worm

end WormBattle
