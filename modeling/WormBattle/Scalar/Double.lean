import WormBattle.Scalar

/-!
# Doubles as scalars

The instance on which battles are played. All of its operations are those of IEEE double
arithmetic; two of them are built here from natural numbers, since a finite double is a whole number
of units `2 ^ e`.

* The **remainder** of two doubles is a remainder of natural numbers over their common unit, and it
  is again a double, so nothing is rounded.
* The **cube root** is the double nearest to the root. With its unit small enough, a double is a
  natural number whose root has a whole part of 54 digits, one more than a double holds. The last of
  them decides how to round: the root is never half way between two doubles, since the cube of a
  number of 54 digits that ends in a one has far more digits than a double.
-/

namespace WormBattle

/-- The double nearest to a natural number. One that a machine word holds is rounded from the
word. -/
def Double.ofNat (n : Nat) : Float :=
  if n.toUInt64.toNat = n then n.toUInt64.toFloat else Float.ofNat n

/-- A finite double without its sign: `mantissa * 2 ^ exponent`. -/
structure Magnitude where
  /-- The digits, at most 53 bits. -/
  mantissa : Nat
  /-- The place of the last digit. -/
  exponent : Int
  deriving Repr, DecidableEq

namespace Magnitude

/-- The magnitude that the low 63 bits of a double's pattern stand for. The exponent field 0 marks
the subnormal numbers, which have no leading one. -/
def ofBits (bits : UInt64) : Magnitude :=
  let fraction := (bits &&& 0xFFFFFFFFFFFFF).toNat
  let field := ((bits >>> 52) &&& 0x7FF).toNat
  if field = 0 then ⟨fraction, -1074⟩ else ⟨fraction + Nat.pow 2 52, (field : Int) - 1075⟩

/-- The magnitude of a finite double. -/
def ofFloat (x : Float) : Magnitude :=
  ofBits x.toBits

/-- The digits of a magnitude when it is counted in units of `2 ^ place`, for a place that is not
above its own. -/
def unitsAt (m : Magnitude) (place : Int) : Nat :=
  m.mantissa <<< (m.exponent - place).toNat

/-- The exact remainder of two magnitudes, counted in the smaller of their two units. -/
def rem (x y : Magnitude) : Magnitude :=
  let place := min x.exponent y.exponent
  ⟨x.unitsAt place % y.unitsAt place, place⟩

/-- The whole part of the cube root of `n`, given the root so far and the number of binary digits
that have yet to be found. -/
def cubeRootFrom (n : Nat) : Nat → Nat → Nat
  | root, 0 => root
  | root, digits + 1 =>
    let next := root + Nat.pow 2 digits
    cubeRootFrom n (if next * next * next ≤ n then next else root) digits

/-- The cube root of a magnitude other than zero, rounded to 53 digits. The unit is made so small
that its exponent is a multiple of three and that the number of units has 160 to 162 digits. -/
def cbrt (m : Magnitude) : Magnitude :=
  let room := 161 - m.mantissa.log2
  let shift := room - ((room - m.exponent) % 3).toNat
  let root := cubeRootFrom (m.mantissa <<< shift) 0 54
  ⟨(root + 1) / 2, (m.exponent - shift) / 3 + 1⟩

/-- The double of a magnitude that has at most 53 digits. -/
def toFloat (m : Magnitude) : Float :=
  (Double.ofNat m.mantissa).scaleB m.exponent

end Magnitude

/-- The sign bit of a double. -/
def Double.isNegative (x : Float) : Bool :=
  x.toBits >>> 63 == 1

/-- The remainder of a division cut towards zero, without rounding. It has the sign of the
dividend, also when it is zero, and is undefined for an infinite dividend or a zero divisor. -/
def Double.remainder (x y : Float) : Float :=
  if x.isNaN || y.isNaN || x.isInf || y == 0.0 then 0.0 / 0.0
  else if y.isInf then x
  else
    let magnitude := ((Magnitude.ofFloat x).rem (Magnitude.ofFloat y)).toFloat
    if Double.isNegative x then -magnitude else magnitude

/-- The cube root, with the sign of its operand. Zeros, infinities and undefined values are their
own cube roots. -/
def Double.cbrt (x : Float) : Float :=
  if x == 0.0 || !x.isFinite then x
  else
    let magnitude := (Magnitude.ofFloat x).cbrt.toFloat
    if Double.isNegative x then -magnitude else magnitude

/-- Doubles, with the operations of IEEE arithmetic. -/
instance : Scalar Float where
  natCast := Double.ofNat
  isLt x y := decide (x < y)
  isLt_iff _ _ := decide_eq_true_iff
  isLe x y := decide (x ≤ y)
  isLe_iff _ _ := decide_eq_true_iff
  pi := 3.141592653589793
  sqrt := Float.sqrt
  cbrt := Double.cbrt
  sin := Float.sin
  cos := Float.cos
  atan2 := Float.atan2
  abs := Float.abs
  floor := Float.floor
  ceil := Float.ceil
  round := Float.round
  rem := Double.remainder
  toNat x := x.toUInt64.toNat
  isFinite := Float.isFinite

end WormBattle
