import Mathlib.Data.Rat.Floor
import Mathlib.Data.Rat.Sqrt
import WormBattle.Scalar

/-!
# Rational scalars

The rational numbers as scalars. Their arithmetic is exact and always finite, and it can be carried
out inside a proof, so that a definite game can be followed. Roots, angles and the ratio of the
circle are not rational, and simple approximations stand for them: the root of a square is exact,
and so are the sine and the cosine of zero.
-/

namespace WormBattle

/-- Cut off the fraction of a rational number, towards zero. -/
def Rational.truncate (x : Rat) : Int :=
  if 0 ≤ x then x.floor else x.ceil

instance : Scalar Rat where
  isLt x y := decide (x < y)
  isLt_iff _ _ := decide_eq_true_iff
  isLe x y := decide (x ≤ y)
  isLe_iff _ _ := decide_eq_true_iff
  pi := 355 / 113
  sqrt := Rat.sqrt
  cbrt x := (x + 2) / 3
  sin x := x - x * x * x / 6
  cos x := 1 - x * x / 2
  atan2 y x := y / x
  abs x := if x < 0 then -x else x
  floor x := x.floor
  ceil x := x.ceil
  round x := Rational.truncate (if 0 ≤ x then x + 1 / 2 else x - 1 / 2)
  rem x y := x - y * Rational.truncate (x / y)
  toNat x := (Rational.truncate x).toNat
  isFinite _ := true

end WormBattle
