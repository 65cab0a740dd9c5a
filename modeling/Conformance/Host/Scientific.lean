import Conformance.Decimal.Fixed
import Conformance.Decimal.Shortest

/-!
Numbers with one digit before the point and an exponent, and numbers with a count of digits that
matter.  Values are rounded as for a fixed count of places.
-/

namespace Conformance.Decimal

/-- The power of ten of the first digit of a positive fraction that is rounded to `places` digits
behind that one, and those digits as one number. -/
def leading (places numerator denominator : Nat) : Int × Nat :=
  let power := pointOf numerator denominator - 1
  let (up, down) := ratio 10 1 (places - power)
  let units := roundHalfEven (numerator * up) (denominator * down)
  if units = Nat.pow 10 (places + 1) then (power + 1, Nat.pow 10 places) else (power, units)

/-- An exponent with its sign and at least two digits. -/
def exponentText (power : Int) : Text :=
  let digits := Numeral.ofNat power.natAbs
  (if power < 0 then '-' else '+') :: (List.replicate (2 - digits.length) '0' ++ digits)

/-- A fraction with one digit before the point, `places` behind it and an exponent. -/
def scientific (places numerator denominator : Nat) : Text :=
  let (power, units) := if numerator = 0 then (0, 0) else leading places numerator denominator
  withPoint places units ++ 'e' :: exponentText power

/-- A text without the zeros at the end of the digits behind its point, and without a point that
nothing follows. -/
def dropPlaces (t : Text) : Text :=
  if '.' ∈ t then
    let kept := (t.reverse.dropWhile (· = '0')).reverse
    if kept.getLast? = some '.' then kept.dropLast else kept
  else t

/-- A fraction with a count of digits that matter, at least one, in the shorter of the two forms;
zeros at the end are kept where `zeros` holds. -/
def general (count : Nat) (zeros : Bool) (numerator denominator : Nat) : Text :=
  let count := max count 1
  let trim := fun t => if zeros then t else dropPlaces t
  let power :=
    if numerator = 0 then 0 else (leading (count - 1) numerator denominator).1
  if -4 ≤ power ∧ power < count then
    let places := (count - 1 - power).toNat
    trim (withPoint places (roundHalfEven (numerator * Nat.pow 10 places) denominator))
  else
    let t := scientific (count - 1) numerator denominator
    let digits := t.takeWhile (· ≠ 'e')
    trim digits ++ t.drop digits.length

end Conformance.Decimal
