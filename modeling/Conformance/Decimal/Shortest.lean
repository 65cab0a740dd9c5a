import Conformance.Decimal.Binary64
import Conformance.Numeral

/-!
The shortest decimal numbers that read back.  A decimal reads back as a floating-point number when
it lies in the interval of the values that round to it.  For each count of digits only the two
neighbours of the exact value on the grid of that count can be the nearest; the first count with a
hit wins, and of two hits the nearer one.
-/

namespace Conformance.Decimal

/-- A positive value with the interval around it, all as counts of one unit; the ends belong to
the interval when `closed` holds. -/
structure Interval where
  low : Nat
  value : Nat
  high : Nat
  closed : Bool
  unit : Nat
deriving DecidableEq, Repr

/-- The values that round to `mantissa · 2 ^ exponent`, in quarters of the last binary place.  Below
a power of two the numbers lie twice as close, unless the exponent is the least one. -/
def interval (mantissa : Nat) (exponent : Int) : Interval :=
  let below := if mantissa = fractions ∧ exponent > -1074 then 1 else 2
  let (scale, unit) := ratio 2 1 (exponent - 2)
  { low := (4 * mantissa - below) * scale
    value := 4 * mantissa * scale
    high := (4 * mantissa + 2) * scale
    closed := mantissa % 2 = 0
    unit := unit }

/-- Does a multiple of the unit lie in the interval? -/
def Interval.holds (i : Interval) (x : Nat) : Bool :=
  if i.closed then i.low ≤ x && x ≤ i.high else i.low < x && x < i.high

/-- The interval in units that are `factor` times as fine. -/
def Interval.refine (i : Interval) (factor : Nat) : Interval :=
  { i with low := i.low * factor, value := i.value * factor, high := i.high * factor }

/-- A positive decimal number: its digits without zeros at the end, and the count of digits before
the point. -/
structure Digits where
  digits : Text
  point : Int
deriving DecidableEq, Repr

/-- The count of digits before the point of a positive fraction; zero or less if it is below one
tenth. -/
def pointOf (numerator denominator : Nat) : Int :=
  if denominator ≤ numerator then (Numeral.ofNat (numerator / denominator)).length
  else
    let zeros := (List.range 400).takeWhile fun z => numerator * Nat.pow 10 (z + 1) < denominator
    Int.negOfNat zeros.length

/-- The nearest number with this count of digits, if one of the neighbours lies in the interval. -/
def onGrid? (i : Interval) (point : Int) (count : Nat) : Option Nat :=
  let (numerator, denominator) := ratio 10 1 (point - count)
  let i := i.refine denominator
  let step := numerator * i.unit
  let lower := i.value / step
  let upper := lower + 1
  match i.holds (lower * step), i.holds (upper * step) with
  | true, true =>
      let toLower := i.value - lower * step
      let toUpper := upper * step - i.value
      if toLower < toUpper ∨ (toLower = toUpper ∧ lower % 2 = 0) then some lower else some upper
  | true, false => some lower
  | false, true => some upper
  | false, false => none

def dropZeros (t : Text) : Text :=
  (t.reverse.dropWhile (· = '0')).reverse

/-- The shortest digits that read back as `mantissa · 2 ^ exponent`, for a positive mantissa. -/
def shortest (mantissa : Nat) (exponent : Int) : Digits :=
  let i := interval mantissa exponent
  let point := pointOf i.value i.unit
  match (List.range 17).findSome? fun n => (onGrid? i point (n + 1)).map fun d => (n + 1, d) with
  | some (count, d) =>
      let digits := Numeral.ofNat d
      ⟨dropZeros digits, point + (digits.length - count : Int)⟩
  | none => ⟨['0'], point⟩

end Conformance.Decimal
