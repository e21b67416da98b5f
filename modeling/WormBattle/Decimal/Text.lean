import WormBattle.Decimal.Shortest

/-!
# Decimal texts of doubles

Three ways of writing a double.

* **`text`**: the shortest digits that are read back as the double, always positional, without a
  point when there is no fraction.
* **`fixedText`**: a fixed number of places, the exact binary value rounded with a half going to the
  even neighbour.
* **`numberText`**: the shortest digits as a JSON number that shows itself to be a double: with a
  fraction or an exponent.

A zero keeps its sign.
-/

namespace WormBattle

namespace Decimal

/-- The digits with a point so many places from their end, filled up with zeros. -/
def pointed (digits : String) (places : Nat) : String :=
  let padded := "".pushn '0' (places + 1 - digits.length) ++ digits
  let whole := padded.length - places
  if places = 0 then padded
  else String.ofList (padded.toList.take whole) ++ "." ++ String.ofList (padded.toList.drop whole)

/-- A decimal without an exponent. -/
def positional (d : Decimal) : String :=
  let digits := toString d.digits
  if 0 ≤ d.exponent then digits.pushn '0' d.exponent.toNat
  else pointed digits (-d.exponent).toNat

/-- A decimal as a JSON number with a fraction or an exponent: positional from a hundred
thousandth up to sixteen whole digits, scientific beyond. -/
def scientific (d : Decimal) : String :=
  let digits := toString d.digits
  let whole : Int := digits.length + d.exponent
  if 0 ≤ d.exponent ∧ whole ≤ 16 then d.positional ++ ".0"
  else if -5 < whole ∧ whole ≤ 16 then d.positional
  else if digits.length = 1 then digits ++ "e" ++ toString (whole - 1)
  else pointed digits (digits.length - 1) ++ "e" ++ toString (whole - 1)

end Decimal

namespace Double

/-- A double's sign followed by the text of its magnitude. -/
def signed (x : Float) (magnitude : String) : String :=
  if isNegative x then "-" ++ magnitude else magnitude

/-- The text of a double that is not finite. -/
def unboundedText (x : Float) : String :=
  if x.isNaN then "NaN" else signed x "inf"

/-- The shortest positional text that is read back as the double. -/
def text (x : Float) : String :=
  if !x.isFinite then unboundedText x
  else if x == 0.0 then signed x "0"
  else signed x ((Magnitude.ofFloat x).shortest .up).positional

/-- The quotient of two natural numbers as a whole number, a half going to the even one. -/
def divHalfEven (n d : Nat) : Nat :=
  let q := n / d
  let past := 2 * (n % d)
  if past < d then q
  else if d < past then q + 1
  else if q % 2 = 0 then q else q + 1

/-- The text of a double with so many places after the point. -/
def fixedText (places : Nat) (x : Float) : String :=
  if !x.isFinite then unboundedText x
  else
    let m := Magnitude.ofFloat x
    let units := divHalfEven (m.mantissa * Nat.pow 10 places * Nat.pow 2 m.exponent.toNat)
      (Nat.pow 2 (-m.exponent).toNat)
    signed x (Decimal.pointed (toString units) places)

/-- The text of a finite double as a JSON number. -/
def numberText (x : Float) : String :=
  if x == 0.0 then signed x "0.0"
  else signed x ((Magnitude.ofFloat x).shortest .toEven).scientific

end Double

end WormBattle
