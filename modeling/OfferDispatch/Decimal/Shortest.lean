import OfferDispatch.Power

/-!
# The shortest decimal of a float

Every finite float stands for an interval of reals: those that round to it. Of all decimals in that
interval this module picks one with the fewest digits, and among those the nearest to the float.

The float is first taken apart into `mantissa * 2 ^ exponent`. A number of digits fixes a decimal
grid, and if any point of the grid lies in the interval, so does one of the two neighbours of the
float on that grid. The search therefore tries the two neighbours on ever finer grids; seventeen
digits are always enough.
-/

namespace OfferDispatch

/-- The decimal number `digits * 10 ^ exponent`. -/
structure Decimal where
  digits : Nat
  exponent : Int
  deriving DecidableEq, Repr

/-- The size of a finite float: `mantissa * 2 ^ exponent`. -/
structure Magnitude where
  mantissa : Nat
  exponent : Int
  /-- The next smaller float is only half as far away as the next larger one. -/
  closeBelow : Bool
  deriving DecidableEq, Repr

/-- What a float stands for, apart from its sign. -/
inductive FloatClass
  | notANumber
  | infinite
  | finite (size : Magnitude)
  deriving DecidableEq, Repr

namespace Decimal

def isNegative (x : Float) : Bool := decide (2 ^ 63 ≤ x.toBits.toNat)

def classify (x : Float) : FloatClass :=
  let bits : Nat := x.toBits.toNat
  let raised : Nat := bits / 2 ^ 52 % 2 ^ 11
  let fraction : Nat := bits % 2 ^ 52
  if raised = 2047 then (if fraction = 0 then .infinite else .notANumber)
  else if raised = 0 then .finite ⟨fraction, -1074, false⟩
  else .finite ⟨2 ^ 52 + fraction, (raised : Int) - 1075, fraction = 0 && 1 < raised⟩

/-- A quotient of natural numbers, together with the ends of an interval around it, all over one
denominator. -/
structure Interval where
  low : Nat
  middle : Nat
  high : Nat
  denominator : Nat
  /-- Do the ends belong to the interval? -/
  closed : Bool

/-- The reals that round to a float of this size; the ends do when the mantissa is even. -/
def interval (m : Magnitude) : Interval :=
  let shift := m.exponent - 2
  let factor := 2 ^ shift.toNat
  { low := (4 * m.mantissa - if m.closeBelow then 1 else 2) * factor
    middle := 4 * m.mantissa * factor
    high := (4 * m.mantissa + 2) * factor
    denominator := 2 ^ (-shift).toNat
    closed := m.mantissa % 2 = 0 }

/-- The least `j` below `fuel` with `denominator ≤ middle * 10 ^ (j + 1)`: the number of zeros
between the point and the first digit. -/
def leadingZeros (middle denominator : Nat) : Nat → Nat
  | 0 => 0
  | fuel + 1 =>
    if denominator ≤ middle * 10 then 0 else leadingZeros (middle * 10) denominator fuel + 1

/-- How many digits stand before the point; negative when zeros follow it. -/
def wholeDigits (i : Interval) : Int :=
  if i.denominator ≤ i.middle then (Nat.toDigits 10 (i.middle / i.denominator)).length
  else -(leadingZeros i.middle i.denominator 400 : Nat)

def Interval.contains (i : Interval) (d : Decimal) : Bool :=
  let up := 10 ^ d.exponent.toNat
  let down := 10 ^ (-d.exponent).toNat
  let value := d.digits * up * i.denominator
  if i.closed then decide (i.low * down ≤ value) && decide (value ≤ i.high * down)
  else decide (i.low * down < value) && decide (value < i.high * down)

/-- How far the decimal is from the middle of the interval, in units that depend on its exponent
only. -/
def Interval.distance (i : Interval) (d : Decimal) : Nat :=
  let up := 10 ^ d.exponent.toNat
  let down := 10 ^ (-d.exponent).toNat
  let value := d.digits * up * i.denominator
  (i.middle * down - value) + (value - i.middle * down)

/-- The largest decimal with the given exponent that is not above the middle of the interval. -/
def Interval.floor (i : Interval) (exponent : Int) : Decimal :=
  ⟨i.middle * 10 ^ (-exponent).toNat / (i.denominator * 10 ^ exponent.toNat), exponent⟩

/-- The nearer of the two neighbours of the middle on the grid of `count` digits, if inside. -/
def onGrid (i : Interval) (count : Nat) : Option Decimal :=
  let below := i.floor (wholeDigits i - count)
  let above := { below with digits := below.digits + 1 }
  match i.contains below, i.contains above with
  | true, true => if i.distance below < i.distance above then some below else some above
  | true, false => some below
  | false, true => some above
  | false, false => none

/-- The decimal without the zeros its digits end with. -/
def dropZeros : Nat → Decimal → Decimal
  | 0, d => d
  | fuel + 1, d =>
    if d.digits ≠ 0 ∧ d.digits % 10 = 0 then dropZeros fuel ⟨d.digits / 10, d.exponent + 1⟩ else d

/-- The decimal with the fewest digits that reads back as a float of this size. -/
def shortest (m : Magnitude) : Decimal :=
  if m.mantissa = 0 then ⟨0, 0⟩
  else
    let i := interval m
    let found := (List.range 17).findSome? fun n => onGrid i (n + 1)
    dropZeros 20 (found.getD (i.floor (wholeDigits i - 17)))

end Decimal

end OfferDispatch
