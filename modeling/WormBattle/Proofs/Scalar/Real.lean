import Mathlib.Analysis.SpecialFunctions.Complex.Arg
import Mathlib.Analysis.SpecialFunctions.Pow.Real
import WormBattle.Position

/-!
# Real scalars

The real numbers as scalars. Their arithmetic is exact, every number is finite and defined, and the
roots, angles and ratios are the true ones. Whatever is shown of a rule of the game over this
instance is said of the rule itself, apart from rounding.

The operations of `Scalar` are here those of the real numbers (`Scalar.sqrt_real` and its like), so
a rule is unfolded first and then reasoned about as a real formula.
-/

namespace WormBattle

/-- Cut off the fraction of a real number, towards zero. -/
noncomputable def Exact.truncate (x : ℝ) : ℤ :=
  if 0 ≤ x then ⌊x⌋ else ⌈x⌉

noncomputable instance : Scalar ℝ where
  isLt x y := decide (x < y)
  isLt_iff _ _ := decide_eq_true_iff
  isLe x y := decide (x ≤ y)
  isLe_iff _ _ := decide_eq_true_iff
  pi := Real.pi
  sqrt := Real.sqrt
  cbrt x := if 0 ≤ x then x ^ (1 / 3 : ℝ) else -(-x) ^ (1 / 3 : ℝ)
  sin := Real.sin
  cos := Real.cos
  atan2 y x := Complex.arg ⟨x, y⟩
  abs x := |x|
  floor x := ⌊x⌋
  ceil x := ⌈x⌉
  round x := Exact.truncate (if 0 ≤ x then x + 1 / 2 else x - 1 / 2)
  rem x y := x - y * Exact.truncate (x / y)
  toNat x := ⌊x⌋₊
  isFinite _ := true

namespace Scalar

/-- Every real number is finite. -/
@[simp] theorem isFinite_real (x : ℝ) : isFinite x = true := rfl

/-- Every real number is defined. -/
@[simp] theorem isUndefined_real (x : ℝ) : isUndefined x = false := by
  simp [isUndefined]

/-- The root is the real one. -/
@[simp] theorem sqrt_real (x : ℝ) : sqrt x = √x := rfl

/-- The absolute value is the real one. -/
@[simp] theorem abs_real (x : ℝ) : Scalar.abs x = |x| := rfl

/-- Rounding down is exact. -/
@[simp] theorem floor_real (x : ℝ) : floor x = ⌊x⌋ := rfl

/-- Rounding up is exact. -/
@[simp] theorem ceil_real (x : ℝ) : ceil x = ⌈x⌉ := rfl

/-- A number is cut off to the natural number below it. -/
@[simp] theorem toNat_real (x : ℝ) : toNat x = ⌊x⌋₊ := rfl

/-- The square is the power. -/
@[simp] theorem sq_real (x : ℝ) : sq x = x ^ 2 :=
  (pow_two x).symm

/-- Of two real numbers neither is undefined, so the larger one is their maximum. -/
@[simp] theorem maxNum_real (x y : ℝ) : maxNum x y = max x y := by
  rw [maxNum, isUndefined_real, if_neg Bool.false_ne_true]
  split_ifs with h
  · exact (max_eq_right h.le).symm
  · exact (max_eq_left (not_lt.mp h)).symm

/-- The numeral with which the rules compare. -/
@[simp] theorem zero_real : (0.0 : ℝ) = 0 := by
  norm_num

end Scalar

namespace Position

/-- Every position in the plane is finite. -/
@[simp] theorem isFinite_real (p : Position ℝ) : p.isFinite = true := rfl

/-- Two spots are at the Euclidean distance. -/
theorem distance_real (p q : Position ℝ) :
    p.distance q = √((p.x - q.x) ^ 2 + (p.y - q.y) ^ 2) := by
  simp only [distance, squaredDistance, Scalar.sqrt_real, Scalar.sq_real]

/-- The spots nearer than a positive distance form the open disc. -/
theorem distance_lt_iff {p q : Position ℝ} {r : ℝ} (hr : 0 < r) :
    p.distance q < r ↔ (p.x - q.x) ^ 2 + (p.y - q.y) ^ 2 < r ^ 2 := by
  rw [distance_real, Real.sqrt_lt' hr]

end Position

end WormBattle
