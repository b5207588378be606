/-
  This file defines the shortest decimal that identifies a
  binary floating-point number.

  The reals that round to a finite number form an interval
  around it. Its ends belong to it exactly when the
  significand is even, and its lower half is narrower when
  the number is a power of two. Of the decimals with the
  fewest digits in the interval, the one nearest to the
  number is selected, and of two that are equally near, the
  one with the even last digit.

  Key definitions include:
    * `Decimal`
    * `Decimal.Interval`
    * `Decimal.Interval.ofBits`
    * `Decimal.Interval.contains`
    * `Decimal.Interval.shortest`
-/

------------------------------------------------------------
-- Decimals
------------------------------------------------------------

namespace IntcodeMachine

/- The number `digits * 10 ^ exponent`. -/
structure Decimal where
  digits : Nat
  exponent : Int
deriving DecidableEq, Repr

namespace Decimal

/- Compare a decimal with the fraction `a / b`. -/
def compareFraction
    (d : Decimal)
    (a b : Nat) : Ordering :=
  compare
    (d.digits * b * Nat.pow 10 d.exponent.toNat)
    (a * Nat.pow 10 (-d.exponent).toNat)

/- The digits of the last grid point not above `a / b`. -/
def floorDigits
    (exponent : Int)
    (a b : Nat) : Nat :=
  (a * Nat.pow 10 (-exponent).toNat) /
    (b * Nat.pow 10 exponent.toNat)

/- Move the trailing zeros of the digits to the exponent. -/
def stripZeros : Nat → Decimal → Decimal
| 0, d => d
| fuel + 1, d =>
    if d.digits ≠ 0 ∧ d.digits % 10 = 0 then
      stripZeros fuel ⟨d.digits / 10, d.exponent + 1⟩
    else d

------------------------------------------------------------
-- Rounding Intervals
------------------------------------------------------------

/-
  A positive number `mid / unit` with the ends `low / unit`
  and `high / unit` of the interval that rounds to it.
-/
structure Interval where
  low : Nat
  mid : Nat
  high : Nat
  unit : Nat
  closed : Bool
deriving Repr

namespace Interval

/- The interval of a significand and a binary exponent. -/
def ofParts
    (significand : Nat)
    (exponent : Int)
    (narrow : Bool) : Interval :=
  let scale := Nat.pow 2 exponent.toNat
  { low :=
      (4 * significand - (if narrow then 1 else 2)) * scale
    mid := 4 * significand * scale
    high := (4 * significand + 2) * scale
    unit := 4 * Nat.pow 2 (-exponent).toNat
    closed := significand % 2 = 0 }

/- The interval of the magnitude of a finite number. -/
def ofBits (bits : UInt64) : Interval :=
  let field : Nat :=
    (bits.toNat / Nat.pow 2 52) % Nat.pow 2 11
  let fraction : Nat := bits.toNat % Nat.pow 2 52
  if field = 0 then ofParts fraction (-1074) false
  else
    ofParts (Nat.pow 2 52 + fraction) ((field : Int) - 1075)
      (fraction = 0 && field > 1)

/- The decimal rounds to the number. -/
def contains
    (i : Interval)
    (d : Decimal) : Bool :=
  let below := d.compareFraction i.low i.unit
  let above := d.compareFraction i.high i.unit
  (below = .gt || (i.closed && below = .eq)) &&
    (above = .lt || (i.closed && above = .eq))

/- The least `k` for which the number is below `10 ^ k`. -/
def scale (i : Interval) : Int :=
  let bits := (i.mid.log2 : Int) - (i.unit.log2 : Int)
  let guess := bits * 30103 / 100000
  let fits := fun k : Int =>
    Decimal.compareFraction ⟨1, k⟩ i.mid i.unit = .gt
  (([-1, 0, 1, 2].map fun step => guess + step).find?
    fun k => fits k).getD (guess + 3)

/-
  The decimal on the grid of `10 ^ exponent` that rounds to
  the number and is nearest to it, if there is one. Only the
  two grid points around the number can be nearest.
-/
def onGrid
    (i : Interval)
    (exponent : Int) : Option Decimal :=
  let down : Decimal :=
    ⟨floorDigits exponent i.mid i.unit, exponent⟩
  let up : Decimal := ⟨down.digits + 1, exponent⟩
  match i.contains down, i.contains up with
  | false, false => none
  | true, false => some down
  | false, true => some up
  | true, true =>
      let middle : Decimal :=
        ⟨down.digits + up.digits, exponent⟩
      match middle.compareFraction (2 * i.mid) i.unit with
      | .gt => some down
      | .lt => some up
      | .eq => some (if down.digits % 2 = 0 then down else up)

/-
  The shortest decimal that rounds to the number. Seventeen
  digits are enough for every binary number of 64 bits.
-/
def shortest (i : Interval) : Decimal :=
  let k := i.scale
  let found :=
    (List.range 17).findSome? fun (n : Nat) =>
      i.onGrid (k - (n : Int) - 1)
  stripZeros 20
    (found.getD
      ⟨floorDigits (k - 17) i.mid i.unit, k - 17⟩)

end Interval

end Decimal

end IntcodeMachine
