import WormBattle.Physics.Sampling
import WormBattle.Proofs.Scalar.Order

/-!
# Counts from scalars

A count is taken from a scalar by cutting off the fraction. A scalar that is not above the largest
number of samples gives no larger count (`Scalar.Truncates`).

For doubles this is seen in their digits. The bound has 53 of them, 33 after the binary point. A
positive double that is not above it has the point at the same place and no larger mantissa, or it
has more digits after the point, and then at most 19 before.
-/

namespace WormBattle

/-- Cutting off the fraction does not lead above the largest number of samples. -/
class Scalar.Truncates (α : Type) [Scalar α] : Prop where
  /-- A scalar that is not above the largest number of samples gives no larger count. -/
  toNat_le {x : α} : ¬(maxSamples : α) < x → Scalar.toNat x ≤ maxSamples

instance : Scalar.Truncates ℝ where
  toNat_le h := Nat.floor_le_of_le (not_lt.mp h)

instance : Scalar.Truncates Rat where
  toNat_le {x} h := by
    have hle : x ≤ ((maxSamples : ℤ) : ℚ) := not_lt.mp h
    have hwhole : Rational.truncate x ≤ maxSamples := by
      rw [Rational.truncate]
      split_ifs
      · exact_mod_cast (Rat.floor_le x).trans hle
      · rw [Rat.ceil_eq_neg_floor_neg]
        exact Int.neg_le_of_neg_le (Rat.le_floor_iff.mpr (by simpa using hle))
    exact Int.toNat_le.mpr hwhole

namespace Double

open Float.Model (UnpackedFloat Format)
open Float.Model.UnpackedFloat (ExtendedMantissa Sign)

private theorem mantissa_shiftRight (em : ExtendedMantissa) (n : Nat) :
    (em >>> n).mantissa = em.mantissa / 2 ^ n := by
  induction n with
  | zero => exact (Nat.div_one _).symm
  | succ n ih =>
    calc (em >>> (n + 1)).mantissa = (em >>> n).mantissa / 2 := rfl
      _ = em.mantissa / 2 ^ (n + 1) := by rw [ih, Nat.div_div_eq_div_mul, pow_succ]

/-- A double has at most 53 digits. -/
theorem mantissa_lt {bits : BitVec 64} {sign : Sign} {mantissa : Nat} {exponent : Int}
    {hmantissa : 0 < mantissa}
    (h : UnpackedFloat.unpack .binary64 bits = .finite sign mantissa exponent hmantissa) :
    mantissa < 2 ^ 53 := by
  delta UnpackedFloat.unpack at h
  dsimp only at h
  split_ifs at h
  · cases h
    exact (BitVec.isLt _).trans (by decide)
  · cases h
    exact BitVec.isLt _

/-- The whole part of a double with so many digits after the binary point. -/
theorem toInt_finite (sign : Sign) {mantissa : Nat} (hmantissa : 0 < mantissa) (digits : Nat)
    (low high : Int) : UnpackedFloat.toInt low high (.finite sign mantissa (-digits) hmantissa) =
      sign.apply (mantissa / 2 ^ digits : Nat) := by
  have hleft : UnpackedFloat.decreaseExponent mantissa (-digits) 0 =
      (mantissa, -(digits : Int)) := by
    simp [UnpackedFloat.decreaseExponent]
  rw [UnpackedFloat.toInt, UnpackedFloat.roundToInt, hleft]
  simp [UnpackedFloat.shiftToExponent, mantissa_shiftRight, ExtendedMantissa.ofMantissaAndAccuracy]

private theorem toInt_negative_le {mantissa : Nat} {exponent : Int} (hmantissa : 0 < mantissa)
    (low high : Int) :
    UnpackedFloat.toInt low high (.finite .negative mantissa exponent hmantissa) ≤ 0 :=
  Int.neg_nonpos_of_nonneg (Int.natCast_nonneg _)

private theorem toNat_toUInt64_le {x : UnpackedFloat} {bound : Nat}
    (h : x.toInt 0 (UInt64.size - 1) ≤ bound) : x.toUInt64.toNat ≤ bound := by
  have hle : (x.toInt 0 (UInt64.size - 1)).toNat ≤ bound := Int.toNat_le.mpr h
  rw [UnpackedFloat.toUInt64]
  rcases Nat.lt_or_ge (x.toInt 0 (UInt64.size - 1)).toNat UInt64.size with hlt | hge
  · rwa [UInt64.toNat_ofNatClamp_of_lt hlt]
  · rw [UInt64.toNat_ofNatClamp_of_le hge]
    omega

private theorem unpack_maxSamples : ∃ h, ((maxSamples : Nat) : Float).toModel.unpack =
    .finite .positive (1000000 * 2 ^ 33) (-33) h :=
  ⟨by decide, by rfl⟩

/-- A positive double whose place is not after that of the largest number of samples. -/
theorem div_le_maxSamples {mantissa digits : Nat} (hmantissa : mantissa < 2 ^ 53)
    (h : 33 < digits ∨ digits = 33 ∧ mantissa ≤ 1000000 * 2 ^ 33) :
    mantissa / 2 ^ digits ≤ maxSamples := by
  rcases h with hdigits | ⟨rfl, hle⟩
  · have hpow : 2 ^ 34 ≤ 2 ^ digits := Nat.pow_le_pow_right (by decide) hdigits
    calc mantissa / 2 ^ digits ≤ mantissa / 2 ^ 34 := Nat.div_le_div_left hpow (by decide)
      _ ≤ 2 ^ 53 / 2 ^ 34 := Nat.div_le_div_right hmantissa.le
      _ ≤ maxSamples := by decide
  · exact Nat.div_le_of_le_mul (by rwa [Nat.mul_comm] at hle)

end Double

instance : Scalar.Truncates Float where
  toNat_le {x} h := by
    refine Double.toNat_toUInt64_le ?_
    obtain ⟨hpositive, hbound⟩ := Double.unpack_maxSamples
    rw [Double.lt_iff, hbound] at h
    cases hx : x.toModel.unpack with
    | notANumber | zero => exact Int.natCast_nonneg _
    | infinity sign =>
      cases sign with
      | negative => decide
      | positive =>
        rw [hx] at h
        refine absurd ⟨nofun, nofun, ?_⟩ h
        exact Prod.Lex.toLex_lt_toLex.mpr (.inl (by decide))
    | finite sign mantissa exponent hmantissa =>
      cases sign with
      | negative => exact (Double.toInt_negative_le hmantissa _ _).trans (by decide)
      | positive =>
        have hplace : exponent < -33 ∨ exponent = -33 ∧ mantissa ≤ 1000000 * 2 ^ 33 := by
          have hplace : ¬Double.place _ < Double.place _ := fun hlt => h ⟨nofun, hx ▸ nofun, hlt⟩
          simp only [hx, Double.place, Prod.Lex.toLex_lt_toLex, lt_irrefl, true_and, false_or,
            not_or, not_and, not_lt] at hplace
          omega
        obtain ⟨digits, rfl⟩ : ∃ digits : Nat, exponent = -digits := ⟨exponent.natAbs, by omega⟩
        rw [Double.toInt_finite]
        exact Int.ofNat_le.mpr (Double.div_le_maxSamples (Double.mantissa_lt hx) (by omega))

end WormBattle
