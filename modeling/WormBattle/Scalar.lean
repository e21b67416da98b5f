/-!
# Scalars

Every length, angle, time, force and cost of a battle is a **scalar**. The rules of the game are
written once over the class `Scalar` and say nothing of how a scalar is represented: a battle is
played on IEEE doubles (`WormBattle.Scalar.Double`), and the same rules can be read over the real
numbers, where arithmetic is exact.

* **Arithmetic and order** are the usual notations. A comparison is decidable but need not be
  total: with a number that is not a number on either side all of them fail, so `x < y` and
  `¬ y ≤ x` are different questions and the rules ask exactly the one that they mean.
* **Numerals** are decimal (`2.0`, `9.80665`), counts are casts of `Nat`.
* **`toNat`** cuts towards zero and saturates, so that a count or a number of points can be taken
  from any scalar.
-/

namespace WormBattle

/-- The arithmetic that the rules of the game need. -/
class Scalar (α : Type) extends
    Add α, Sub α, Mul α, Div α, Neg α, LT α, LE α, BEq α, OfScientific α, NatCast α where
  /-- Whether a number is less than another. -/
  isLt : α → α → Bool
  /-- The order is what `isLt` tests. -/
  isLt_iff : ∀ x y, isLt x y = true ↔ x < y
  /-- Whether a number is at most another. -/
  isLe : α → α → Bool
  /-- The weak order is what `isLe` tests. -/
  isLe_iff : ∀ x y, isLe x y = true ↔ x ≤ y
  /-- The ratio of a circle's circumference to its diameter. -/
  pi : α
  /-- The square root. -/
  sqrt : α → α
  /-- The cube root. -/
  cbrt : α → α
  /-- The sine of an angle in radians. -/
  sin : α → α
  /-- The cosine of an angle in radians. -/
  cos : α → α
  /-- The angle of the vector `(x, y)`, given as `atan2 y x`. -/
  atan2 : α → α → α
  /-- The absolute value. -/
  abs : α → α
  /-- The greatest whole number not above. -/
  floor : α → α
  /-- The least whole number not below. -/
  ceil : α → α
  /-- The nearest whole number, a half going away from zero. -/
  round : α → α
  /-- The remainder of a division cut towards zero: it has the sign of the dividend. -/
  rem : α → α → α
  /-- The natural number that is left when the fraction is cut off; below zero it is zero. -/
  toNat : α → Nat
  /-- Neither infinite nor undefined. -/
  isFinite : α → Bool

/-- The order is decided by `isLt`. -/
@[macro_inline]
instance Scalar.decidableLT {α : Type} [Scalar α] : DecidableLT α := fun x y =>
  if h : Scalar.isLt x y then .isTrue ((Scalar.isLt_iff x y).1 h)
  else .isFalse (mt (Scalar.isLt_iff x y).2 h)

/-- The weak order is decided by `isLe`. -/
@[macro_inline]
instance Scalar.decidableLE {α : Type} [Scalar α] : DecidableLE α := fun x y =>
  if h : Scalar.isLe x y then .isTrue ((Scalar.isLe_iff x y).1 h)
  else .isFalse (mt (Scalar.isLe_iff x y).2 h)

namespace Scalar

variable {α : Type} [Scalar α]

/-- The undefined results are the scalars that differ from themselves. -/
def isUndefined (x : α) : Bool :=
  !(x == x)

/-- The larger of two scalars; a defined one beats an undefined one. -/
def maxNum (x y : α) : α :=
  if isUndefined x then y else if x < y then y else x

/-- The smaller of two scalars; a defined one beats an undefined one. -/
def minNum (x y : α) : α :=
  if isUndefined x then y else if y < x then y else x

/-- The square, as one product. -/
def sq (x : α) : α :=
  x * x

/-- The cube, as the product of the scalar and its square. -/
def cube (x : α) : α :=
  x * (x * x)

/-- The full circle in radians. -/
def tau : α :=
  2.0 * pi

/-- The largest number of points, of a yield or of a cost that is ever counted. -/
def maxPoints : Nat :=
  4294967295

/-- A scalar as a number of points: cut towards zero and held between zero and `maxPoints`. -/
def toPoints (x : α) : Nat :=
  min (toNat x) maxPoints

end Scalar

end WormBattle
