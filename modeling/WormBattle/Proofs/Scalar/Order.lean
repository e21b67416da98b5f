import Mathlib
import WormBattle.Proofs.Scalar.Rational
import WormBattle.Proofs.Scalar.Real
import WormBattle.Scalar.Double

/-!
# Comparing scalars

The order of scalars need not be total, but it is total as far as the scalars are defined
(`Scalar.Compares`): what lies below another one is passed, from below or from above, by every
defined scalar. This is what a search for a least scalar rests on.

The doubles are compared by their sign, their exponent and their mantissa, one after the other. So
each of them has a place among triples of integers in lexicographic order (`Double.place`), and for
doubles that are numbers the order is the order of their places.
-/

namespace WormBattle

/-- Scalars are compared by an order that is total on the defined ones. -/
class Scalar.Compares (α : Type) [Scalar α] : Prop where
  /-- Zero is defined. -/
  isUndefined_zero : Scalar.isUndefined (0.0 : α) = false
  /-- No scalar is both below and above another one. -/
  lt_asymm {x y : α} : x < y → ¬y < x
  /-- Of two scalars in order, a defined third one is above the first or below the second. -/
  lt_or_lt {x z : α} (y : α) : Scalar.isUndefined y = false → x < z → x < y ∨ y < z

namespace Scalar

variable {α : Type} [Scalar α] [Compares α] {x y z : α}

/-- The order of doubles is transitive where the numbers are defined. -/
theorem lt_trans (hz : isUndefined z = false) (hxy : x < y) (hyz : y < z) : x < z := by
  rcases Compares.lt_or_lt z hz hxy with hxz | hzy
  · exact hxz
  · exact absurd hzy (Compares.lt_asymm hyz)

/-- The larger of a scalar and zero is defined. -/
theorem isUndefined_maxNum_zero (x : α) : isUndefined (maxNum x 0.0) = false := by
  rw [maxNum]
  split_ifs with hx
  · exact Compares.isUndefined_zero
  · exact Compares.isUndefined_zero
  · exact Bool.eq_false_of_not_eq_true hx

end Scalar

instance : Scalar.Compares ℝ where
  isUndefined_zero := Scalar.isUndefined_real _
  lt_asymm h := h.asymm
  lt_or_lt y _ h := (lt_or_ge _ y).imp_right fun hle => hle.trans_lt h

instance : Scalar.Compares Rat where
  isUndefined_zero := by decide +kernel
  lt_asymm h := h.asymm
  lt_or_lt y _ h := (lt_or_ge _ y).imp_right fun hle => hle.trans_lt h

namespace Double

open Float.Model (UnpackedFloat)

/-- The place of a double in the order of the doubles. -/
def place : UnpackedFloat → ℤ ×ₗ ℤ ×ₗ ℤ
  | .infinity .negative => toLex (-2, toLex (0, 0))
  | .finite .negative mantissa exponent _ => toLex (-1, toLex (-exponent, -mantissa))
  | .zero _ | .notANumber => toLex (0, toLex (0, 0))
  | .finite .positive mantissa exponent _ => toLex (1, toLex (exponent, mantissa))
  | .infinity .positive => toLex (2, toLex (0, 0))

/-- One defined double is below another exactly when its place is. -/
theorem lt_iff_place (x y : UnpackedFloat) : UnpackedFloat.lt x y = true ↔
    x ≠ .notANumber ∧ y ≠ .notANumber ∧ place x < place y := by
  rw [UnpackedFloat.lt, beq_iff_eq]
  -- The comparison goes by the kinds and the signs of both.
  rcases x with ⟨_ | _⟩ | _ | ⟨_ | _⟩ | ⟨_ | _, mantissa, exponent, _⟩ <;>
    rcases y with ⟨_ | _⟩ | _ | ⟨_ | _⟩ | ⟨_ | _, mantissa', exponent', _⟩ <;>
    simp [UnpackedFloat.compare, place, Prod.Lex.toLex_lt_toLex]
  case infinity.negative.infinity.positive => rfl
  case finite.negative.finite.negative => simp [Ordering.then_eq_gt, compare_gt_iff_gt]
  case finite.positive.finite.positive => simp [Ordering.then_eq_lt, compare_lt_iff_lt]

/-- Of two doubles that are numbers, the lesser one has the lesser place on the line. -/
theorem lt_iff {x y : Float} : x < y ↔ x.toModel.unpack ≠ .notANumber ∧
    y.toModel.unpack ≠ .notANumber ∧ place x.toModel.unpack < place y.toModel.unpack :=
  decide_eq_true_iff.trans (lt_iff_place _ _)

private theorem ne_notANumber_of_isUndefined {x : Float} (h : Scalar.isUndefined x = false) :
    x.toModel.unpack ≠ .notANumber := by
  intro hx
  have hself : (x == x) = true := by simpa [Scalar.isUndefined] using h
  change UnpackedFloat.beq x.toModel.unpack x.toModel.unpack = true at hself
  rw [hx] at hself
  cases hself

end Double

instance : Scalar.Compares Float where
  isUndefined_zero := by decide +kernel
  lt_asymm hxy hyx := (Double.lt_iff.mp hxy).2.2.asymm (Double.lt_iff.mp hyx).2.2
  lt_or_lt {x z} y hy hxz := by
    obtain ⟨hx, hz, hplace⟩ := Double.lt_iff.mp hxz
    have hy := Double.ne_notANumber_of_isUndefined hy
    rcases lt_or_ge (Double.place x.toModel.unpack) (Double.place y.toModel.unpack) with hlt | hle
    · exact .inl (Double.lt_iff.mpr ⟨hx, hy, hlt⟩)
    · exact .inr (Double.lt_iff.mpr ⟨hy, hz, hle.trans_lt hplace⟩)

end WormBattle
