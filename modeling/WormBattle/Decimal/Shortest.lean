import WormBattle.Scalar.Double

/-!
# Shortest decimals

A finite double is the nearest double to every real number of an interval around it. The
**shortest decimal** of a double is the number of that interval with the fewest digits, and of
those the nearest to the double. It is found without rounding error: with the double, the ends of
the interval and a decimal grid all counted in one unit, only the two grid points next to the
double have to be looked at, from the coarsest grid to the finest.

The ends belong to the interval exactly when the double's last binary digit is zero, since a number
halfway between two doubles is read as the one with the even digits.
-/

namespace WormBattle

/-- The number `digits * 10 ^ exponent`. -/
structure Decimal where
  /-- The digits, read as a natural number. -/
  digits : Nat
  /-- The place of the last digit. -/
  exponent : Int
  deriving Repr, DecidableEq

/-- Which of two decimals stands for a number halfway between them. -/
inductive Tie where
  /-- The larger one. -/
  | up
  /-- The one that ends in an even digit. -/
  | toEven
  deriving Repr, DecidableEq

namespace Magnitude

/-- A magnitude and the interval of numbers that are read as it, all multiplied by
`scale / (4 * 2 ^ exponent)` with the grid's step as the divisor `step`. -/
structure OnGrid where
  /-- The number itself. -/
  value : Nat
  /-- The lower end of its interval. -/
  low : Nat
  /-- The upper end of its interval. -/
  high : Nat
  /-- The distance between two points of the grid. -/
  step : Nat

/-- A magnitude over the grid of the multiples of `10 ^ place`. The interval reaches halfway to the
next double on each side; below a power of two the doubles are twice as dense. -/
def onGrid (m : Magnitude) (place : Int) : OnGrid :=
  let scale := Nat.pow 2 (m.exponent - 2).toNat * Nat.pow 10 (-place).toNat
  let below := if m.mantissa = Nat.pow 2 52 ∧ m.exponent ≠ -1074 then 1 else 2
  { value := 4 * m.mantissa * scale
    low := (4 * m.mantissa - below) * scale
    high := (4 * m.mantissa + 2) * scale
    step := Nat.pow 2 (2 - m.exponent).toNat * Nat.pow 10 place.toNat }

/-- The multiple of `10 ^ place` that is read as the magnitude and is nearest to it, if there is
any. -/
def gridPoint? (m : Magnitude) (tie : Tie) (place : Int) : Option Nat :=
  let g := m.onGrid place
  let even := m.mantissa % 2 = 0
  let down := g.value / g.step
  let up := down + 1
  let downReads := g.low < down * g.step ∨ (even ∧ g.low = down * g.step)
  let upReads := up * g.step < g.high ∨ (even ∧ up * g.step = g.high)
  let past := 2 * (g.value % g.step)
  if downReads ∧ upReads then
    if past < g.step then some down
    else if g.step < past then some up
    else match tie with
      | .up => some up
      | .toEven => if down % 2 = 0 then some down else some up
  else if downReads then some down
  else if upReads then some up
  else none

/-- A place at which the magnitude has no digit but zeros: `1233 / 4096` is just above the
logarithm of two. -/
def topPlace (m : Magnitude) : Int :=
  ((m.exponent + m.mantissa.log2) * 1233) / 4096 + 2

/-- The shortest decimal that is read as a magnitude, which must not be zero. Seventeen digits are
enough for every double. -/
def shortest (m : Magnitude) (tie : Tie) : Decimal :=
  let places := (List.range 20).map fun (i : Nat) => m.topPlace - (i : Int)
  match places.findSome? fun place =>
      (m.gridPoint? tie place).map fun n => (⟨n, place⟩ : Decimal) with
  | some d => d
  | none => ⟨0, 0⟩

end Magnitude

end WormBattle
