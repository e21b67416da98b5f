import WormBattle.Proofs.Scalar.Real
import WormBattle.Proofs.Scalar.Rational
import WormBattle.Scalar.Double

/-!
# The distance from a spot to itself

No positive length reaches as far as from a finite spot to itself and back (`Scalar.Separates`).
This is plain for numbers that are exact. It also holds of doubles: the difference of a finite
double and itself is zero, and from then on all is computed with zeros. It fails for spots that are
not finite, whose distance to themselves is undefined.
-/

namespace WormBattle

/-- A positive length is more than the distance from a spot to itself. -/
class Scalar.Separates (α : Type) [Scalar α] : Prop where
  not_le_distance_self {spot : Position α} {length : α} :
    spot.isFinite = true → 0.0 < length → ¬length ≤ spot.distance spot

instance : Scalar.Separates ℝ where
  not_le_distance_self {spot length} _ hlength := by
    have hzero : spot.distance spot = 0 := by
      rw [Position.distance_real, sub_self, sub_self]
      simp
    rw [hzero]
    exact not_le.mpr (Scalar.zero_real ▸ hlength)

instance : Scalar.Separates Rat where
  not_le_distance_self {spot length} _ hlength := by
    have hzero : spot.distance spot = 0.0 := by
      rw [Position.distance, Position.squaredDistance, sub_self, sub_self]
      decide +kernel
    rw [hzero]
    exact not_le.mpr hlength

namespace Double

open Float.Model (UnpackedFloat)

/-- The difference of a finite double and itself is the positive zero. -/
theorem sub_self {x : Float} (h : x.isFinite = true) : x - x = 0.0 := by
  have hfinite : x.toModel.unpack.isFinite = true := h
  have hzero : UnpackedFloat.sub .binary64 x.toModel.unpack x.toModel.unpack =
      .zero .positive := by
    cases hx : x.toModel.unpack with
    | notANumber | infinity _ =>
      rw [hx] at hfinite
      cases hfinite
    | zero sign => cases sign <;> rfl
    | finite sign mantissa exponent hmantissa =>
      -- Both mantissas are shifted alike, and their difference is zero.
      have hshifted : ∀ shifted least : Int, UnpackedFloat.normalize .binary64
          (shifted - shifted) least .positive = .zero .positive := by
        intro shifted least
        rw [Int.sub_self]
        rfl
      exact hshifted _ _
  show Float.ofModel (.pack (.sub .binary64 x.toModel.unpack x.toModel.unpack)) = 0.0
  rw [hzero]
  decide +kernel

private theorem unpack_zero : (0.0 : Float).toModel.unpack = .zero .positive := rfl

/-- A positive double is not below zero. -/
theorem not_le_zero {x : Float} (h : 0.0 < x) : ¬x ≤ 0.0 := by
  have hlt : UnpackedFloat.lt (.zero .positive) x.toModel.unpack = true := by
    rw [← unpack_zero]
    exact of_decide_eq_true h
  intro hle
  have hle : UnpackedFloat.le x.toModel.unpack (.zero .positive) = true := by
    rw [← unpack_zero]
    exact of_decide_eq_true hle
  revert hlt hle
  cases x.toModel.unpack with
  | notANumber => nofun
  | infinity sign | finite sign => cases sign <;> nofun
  | zero sign => nofun

end Double

instance : Scalar.Separates Float where
  not_le_distance_self {spot length} hspot hlength := by
    obtain ⟨hx, hy⟩ := Bool.and_eq_true_iff.mp hspot
    have hzero : spot.distance spot = 0.0 := by
      rw [Position.distance, Position.squaredDistance, Double.sub_self hx, Double.sub_self hy]
      decide +kernel
    rw [hzero]
    exact Double.not_le_zero hlength

end WormBattle
