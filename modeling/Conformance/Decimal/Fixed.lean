import Conformance.Decimal.Binary64
import Conformance.Numeral

/-!
Numbers with a fixed count of digits after the point.  The exact value is rounded to the nearest
such number, and a value halfway between two goes to the one with the even last digit.
-/

namespace Conformance.Decimal

/-- A fraction rounded to the nearest natural number, halves to the even one. -/
def roundHalfEven (numerator denominator : Nat) : Nat :=
  let q := numerator / denominator
  let r := numerator % denominator
  if 2 * r > denominator ∨ (2 * r = denominator ∧ q % 2 = 1) then q + 1 else q

/-- A count of units of the last place, with the point before the last `places` digits; there is no
point if there are no places. -/
def withPoint (places units : Nat) : Text :=
  let digits := Numeral.ofNat units
  let padded := List.replicate (places + 1 - digits.length) '0' ++ digits
  let split := padded.length - places
  if places = 0 then digits else padded.take split ++ '.' :: padded.drop split

/-- A number with a fixed count of digits after the point; the sign is kept even for zero. -/
def fixed (places : Nat) (x : Float) : Text :=
  let sign := if isNegative x then ['-'] else []
  match magnitude x with
  | .notANumber => "NaN".toList
  | .infinite => sign ++ "inf".toList
  | .finite m e =>
      let (numerator, denominator) := ratio 2 m e
      sign ++ withPoint places (roundHalfEven (numerator * Nat.pow 10 places) denominator)

end Conformance.Decimal
