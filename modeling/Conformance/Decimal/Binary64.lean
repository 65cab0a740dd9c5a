/-!
Binary floating-point numbers taken apart: sign, and an exact magnitude that is a fraction, an
infinity, or no number at all.
-/

namespace Conformance.Decimal

/-- The size of a floating-point number; a finite one is the fraction of two natural numbers. -/
inductive Magnitude where
  | notANumber
  | infinite
  | finite (mantissa : Nat) (exponent : Int)
deriving DecidableEq, Repr

/-- The number of fractions under one exponent, a word of 52 bits. -/
def fractions : Nat := 0x10000000000000

/-- The number of exponents under one sign, a word of 11 bits. -/
def exponents : Nat := 0x800

def isNegative (x : Float) : Bool :=
  exponents * fractions ≤ x.toBits.toNat

/-- The magnitude that the bits below the sign bit stand for. -/
def magnitude (x : Float) : Magnitude :=
  let bits := x.toBits.toNat
  let fraction := bits % fractions
  let exponent := bits / fractions % exponents
  if exponent = 2047 then if fraction = 0 then .infinite else .notANumber
  else if exponent = 0 then .finite fraction (-1074)
  else .finite (fractions + fraction) (exponent - 1075)

/-- The numerator and the denominator of `m · base ^ e`. -/
def ratio (base m : Nat) : Int → Nat × Nat
  | .ofNat e => (m * base.pow e, 1)
  | .negSucc e => (m, base.pow (e + 1))

end Conformance.Decimal
