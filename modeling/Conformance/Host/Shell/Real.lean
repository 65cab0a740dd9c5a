import Conformance.Decimal.Binary64
import Conformance.Decimal.Reading
import Conformance.Host.Shell.Integer

/-!
Numbers with a point in the arguments of shell commands.  A number is read as far as it goes; it may
be decimal or hexadecimal, an infinity, or no number at all.
-/

namespace Conformance.Shell

/-- A number with a sign of its own. -/
structure Real where
  negative : Bool
  size : Float

namespace Real

/-- A number as it is written: digits with a point in a base, and a power of two or of ten. -/
structure Written where
  mantissa : Nat
  twos : Int
  tens : Int

/-- Is a word at the start of a text, in letters of any case? -/
def startsWith (word : String) (t : Text) : Bool :=
  word.toList.isPrefixOf (t.map Char.toLower)

/-- The exponent from which on no more digits of an exponent count.  No text has as many digits. -/
def exponentLimit : Nat := 1000000000000

/-- Reads an exponent behind one of two letters; a text without one is left as it is. -/
def exponent (small large : Char) (t : Text) : Int × Text :=
  match t with
  | [] => (0, [])
  | c :: rest =>
      if c = small ∨ c = large then
        let (negative, digits) := Decimal.sign rest
        let run := digits.takeWhile Char.isDigit
        if run = [] then (0, t)
        else
          let n : Int := Decimal.exponentValue exponentLimit run
          (if negative then -n else n, digits.drop run.length)
      else (0, t)

/-- Reads digits in a base that may have a point, at least one: a value, the power of the base that
it has to be multiplied with, and what follows. -/
def digits? (base : Nat) (t : Text) : Option (Nat × Int × Text) :=
  let isDigit := fun c => (Integer.digit? base c).isSome
  let whole := t.takeWhile isDigit
  let (part, rest) :=
    match t.drop whole.length with
    | '.' :: t => (t.takeWhile isDigit, t.dropWhile isDigit)
    | t => ([], t)
  if whole = [] ∧ part = [] then none
  else
    let (digits, fewer) := Decimal.significant (whole ++ part)
    let value := digits.foldl (fun n c => n * base + (Integer.digit? base c).getD 0) 0
    some (value, fewer - part.length, rest)

/-- Reads a number without a sign that is made of digits. -/
def written? (t : Text) : Option (Written × Text) :=
  let decimal := (digits? 10 t).map fun (n, power, rest) =>
    let (e, rest) := exponent 'e' 'E' rest
    (⟨n, 0, e + power⟩, rest)
  match t with
  | '0' :: x :: rest =>
      if x = 'x' ∨ x = 'X' then
        match digits? 16 rest with
        | some (n, power, rest) =>
            let (e, rest) := exponent 'p' 'P' rest
            some (⟨n, e + 4 * power, 0⟩, rest)
        | none => decimal
      else decimal
  | _ => decimal

namespace Written

/-- The decimal number, as a whole number of some power of ten. -/
def decimal (w : Written) : Nat × Int :=
  if 2000 < w.twos.natAbs then (if w.twos < 0 then 0 else w.mantissa, 1000)
  else if 0 ≤ w.twos then (w.mantissa * Nat.pow 2 w.twos.toNat, w.tens)
  else (w.mantissa * Nat.pow 5 w.twos.natAbs, w.tens + w.twos)

/-- The floating-point number nearest to the written one. -/
def nearest (w : Written) : Float :=
  let (n, e) := w.decimal
  Decimal.nearest n e

/-- Is the written number too large for a floating-point number, or so small that digits are
lost? -/
def isOutOfRange (w : Written) : Bool :=
  match Decimal.magnitude w.nearest with
  | .notANumber => false
  | .infinite => true
  | .finite m e =>
      let (n, power) := w.decimal
      if w.mantissa = 0 then false
      else if m = 0 then true
      else if Decimal.fractions ≤ m then false
      else
        let (up, down) := Decimal.ratio 10 n power
        let (value, unit) := Decimal.ratio 2 m e
        up * unit ≠ value * down

end Written

/-- What follows the letters and digits in parentheses that no number may have behind it. -/
def dropPayload : Text → Text
  | '(' :: t =>
      match t.dropWhile fun c => c.isAlphanum || c = '_' with
      | ')' :: rest => rest
      | _ => '(' :: t
  | t => t

/-- Reads a number behind blanks and a sign: the number, what follows it, and whether it is out of
range. -/
def read? (t : Text) : Option (Real × Text × Bool) :=
  let (negative, t) := Decimal.sign (Integer.dropBlanks t)
  let word := fun (name : String) (size : Float) =>
    some (⟨negative, size⟩, t.drop name.length, false)
  if startsWith "infinity" t then word "infinity" (Float.ofBits 0x7FF0000000000000)
  else if startsWith "inf" t then word "inf" (Float.ofBits 0x7FF0000000000000)
  else if startsWith "nan" t then
    some (⟨negative, Float.ofBits 0x7FF8000000000000⟩, dropPayload (t.drop 3), false)
  else (written? t).map fun (w, rest) => (⟨negative, w.nearest⟩, rest, w.isOutOfRange)

end Real

end Conformance.Shell
