import Conformance.Text
import Conformance.Numeral

/-!
Reading floating-point numbers.  A number is an optional sign before an infinity, the word for no
number, or digits that may have a point and an exponent; at least one digit stands beside the
point.  The result is the floating-point number nearest to the exact value.
-/

namespace Conformance.Decimal

/-- The count of digits from the first one other than zero on that can tell which floating-point
number is nearest.  A number in the middle between two of them has fewer digits. -/
def significantDigits : Nat := 800

/-- Digits from the first one other than zero on, of which those that cannot tell anything have
become a single one, which is other than zero if one of them is; and how many digits less there are
behind that. -/
def significant (digits : Text) : Text × Nat :=
  let digits := digits.dropWhile (· = '0')
  match digits.drop significantDigits with
  | [] => (digits, 0)
  | rest =>
      let last := if rest.all (· = '0') then '0' else '1'
      (digits.take significantDigits ++ [last], rest.length - 1)

/-- A sign at the start of a text, and what follows it. -/
def sign : Text → Bool × Text
  | '-' :: t => (true, t)
  | '+' :: t => (false, t)
  | t => (false, t)

/-- The exponent from which on no more digits of an exponent count. -/
def exponentLimit : Nat := 65536

/-- The value of the digits of an exponent, of which no more count from a limit on. -/
def exponentValue (limit : Nat) (digits : Text) : Nat :=
  digits.foldl (fun e c => if e < limit then 10 * e + (c.toNat - '0'.toNat) else e) 0

/-- Reads an exponent, which may be missing; nothing may follow it. -/
def exponent? : Text → Option Int
  | [] => some 0
  | c :: t =>
      if c = 'e' ∨ c = 'E' then
        let (negative, digits) := sign t
        if Numeral.isNumeral digits then
          let n : Int := exponentValue exponentLimit digits
          some (if negative then -n else n)
        else none
      else none

/-- Reads the part behind the point, which may be missing, and the exponent. -/
def fraction? : Text → Option (Text × Int)
  | '.' :: t => do
      let digits := t.takeWhile Char.isDigit
      let e ← exponent? (t.dropWhile Char.isDigit)
      return (digits, e)
  | t => do
      let e ← exponent? t
      return ([], e)

def unsigned? (t : Text) : Option (Nat × Int) := do
  let whole := t.takeWhile Char.isDigit
  let (part, e) ← fraction? (t.dropWhile Char.isDigit)
  if whole = [] ∧ part = [] then none
  else
    let (digits, fewer) := significant (whole ++ part)
    return (Nat.ofDigitChars 10 digits 0, e + fewer - part.length)

/-- Is the text this word, in letters of any case? -/
def isWord (word t : Text) : Bool :=
  t.map Char.toLower = word

/-- The floating-point number nearest to `mantissa · 10 ^ exponent`.  Beyond the range of exponents
the result is an infinity or zero, whatever the digits are. -/
def nearest (mantissa : Nat) (exponent : Int) : Float :=
  let point := (Numeral.ofNat mantissa).length + exponent
  if mantissa = 0 ∨ point < -400 then 0.0
  else if 400 < point then Float.ofBits 0x7FF0000000000000
  else Float.ofScientific mantissa (exponent < 0) exponent.natAbs

def read? (t : Text) : Option Float := do
  let (negative, t) := sign t
  let size ←
    if isWord "inf".toList t ∨ isWord "infinity".toList t then
      some (Float.ofBits 0x7FF0000000000000)
    else if isWord "nan".toList t then some (Float.ofBits 0x7FF8000000000000)
    else (unsigned? t).map fun (m, e) => nearest m e
  return if negative then -size else size

end Conformance.Decimal
