import Conformance.Host.Scientific
import Conformance.Host.Shell.Escape
import Conformance.Host.Shell.Real

/-!
The fields of printing formats.  A field shows one argument as text, an integer, or a number with a
point, brought to a width.
-/

namespace Conformance.Shell

structure Field where
  flags : Text := []
  width : Nat := 0
  places : Option Nat := none
  letter : Char
deriving DecidableEq, Repr

/-- An argument under a field: its text, what is wrong with it, and whether it ends all output. -/
structure Shown where
  text : Text
  complaint : Option Text := none
  stop : Bool := false
deriving DecidableEq, Repr

namespace Field

def has (f : Field) (flag : Char) : Bool :=
  f.flags.contains flag

/-- A text brought to the width with blanks. -/
def pad (f : Field) (t : Text) : Text :=
  let fill := List.replicate (f.width - t.length) ' '
  if f.has '-' then t ++ fill else fill ++ t

/-- A number brought to the width: zeros may fill up what is left between the sign and the
digits. -/
def padNumber (f : Field) (zeros : Bool) (sign digits : Text) : Text :=
  if zeros && !f.has '-' then
    sign ++ List.replicate (f.width - sign.length - digits.length) '0' ++ digits
  else f.pad (sign ++ digits)

/-- The sign of a number under the flags. -/
def sign (f : Field) (negative : Bool) : Text :=
  if negative then ['-'] else if f.has '+' then ['+'] else if f.has ' ' then [' '] else []

/-- Digits with zeros before them up to the count of places; zero has no digit of its own if no
place is asked for. -/
def atLeast (f : Field) (digits : Text) : Text :=
  if f.places = some 0 && digits = ['0'] then []
  else List.replicate (f.places.getD 1 - digits.length) '0' ++ digits

def integer (f : Field) (n : Int) : Text :=
  f.padNumber (f.has '0' && f.places.isNone) (f.sign (n < 0)) (f.atLeast (Numeral.ofNat n.natAbs))

/-- A word without a sign, in the base of the letter. -/
def word (f : Field) (n : Nat) : Text :=
  let zeros := f.has '0' && f.places.isNone
  if f.letter = 'o' then
    let digits := f.atLeast (Nat.toDigits 8 n)
    let digits := if f.has '#' && digits.head? ≠ some '0' then '0' :: digits else digits
    f.padNumber zeros [] digits
  else if f.letter = 'x' ∨ f.letter = 'X' then
    let digits := f.atLeast (Nat.toDigits 16 n)
    let base := if f.has '#' && n ≠ 0 then ['0', 'x'] else []
    let shown := f.padNumber zeros base digits
    if f.letter = 'X' then shown.map Char.toUpper else shown
  else f.padNumber zeros [] (f.atLeast (Numeral.ofNat n))

def binaryExponent (e : Int) : Text :=
  'p' :: (if e < 0 then '-' else '+') :: Numeral.ofNat e.natAbs

/-- A number in hexadecimal digits, the first one before the point. -/
def hexadecimal (f : Field) (m : Nat) (e : Int) : Text :=
  let lead := if Decimal.fractions ≤ m then 1 else 0
  let power := if m = 0 then 0 else e + 52
  let rounded :=
    match f.places with
    | some n =>
        if n < 13 then Decimal.roundHalfEven m (Nat.pow 16 (13 - n)) * Nat.pow 16 (13 - n) else m
    | none => m
  let all := Nat.toDigits 16 (rounded % Decimal.fractions)
  let digits := List.replicate (13 - all.length) '0' ++ all
  let digits :=
    match f.places with
    | some n => digits.take n ++ List.replicate (n - 13) '0'
    | none => Decimal.dropZeros digits
  let whole := if lead = 0 && m ≠ 0 then rounded / Decimal.fractions
    else max lead (rounded / Decimal.fractions)
  let point := if digits = [] && !f.has '#' then [] else ['.']
  "0x".toList ++ Numeral.ofNat whole ++ point ++ digits ++ binaryExponent power

/-- A bound for the count of digits of a number from its point, or from the first one other than
zero, to the last one other than zero. -/
def maxDigits : Nat := 1100

/-- The digits of a number with a point, in the form of the letter.  Places beyond a bound hold
zeros. -/
def digits (f : Field) (m : Nat) (e : Int) : Text :=
  let (numerator, denominator) := Decimal.ratio 2 m e
  let asked := f.places.getD 6
  let places := min asked maxDigits
  let form := f.letter.toLower
  let finish := fun (t : Text) (zeros : Nat) =>
    let digits := t.takeWhile (· ≠ 'e')
    let point := if f.has '#' && '.' ∉ t then ['.'] else []
    digits ++ point ++ List.replicate zeros '0' ++ t.drop digits.length
  if form = 'a' then f.hexadecimal m e
  else if form = 'e' then finish (Decimal.scientific places numerator denominator) (asked - places)
  else if form = 'g' then
    let zeros := if f.has '#' then asked - places else 0
    finish (Decimal.general places (f.has '#') numerator denominator) zeros
  else
    let units := Decimal.roundHalfEven (numerator * Nat.pow 10 places) denominator
    finish (Decimal.withPoint places units) (asked - places)

def real (f : Field) (x : Real) : Text :=
  let sign := f.sign x.negative
  let shown :=
    match Decimal.magnitude x.size with
    | .notANumber => f.pad (sign ++ "nan".toList)
    | .infinite => f.pad (sign ++ "inf".toList)
    | .finite m e =>
        match f.digits m e with
        | '0' :: 'x' :: t => f.padNumber (f.has '0') (sign ++ ['0', 'x']) t
        | t => f.padNumber (f.has '0') sign t
  if f.letter.isUpper then shown.map Char.toUpper else shown

/-- What is wrong with an argument that leaves a rest when it is read as a number. -/
def complaint? (arg rest : Text) : Option Text :=
  if rest = [] then none
  else if rest = arg then some (arg ++ ": expected numeric value".toList)
  else some (arg ++ ": not completely converted".toList)

/-- What is wrong with a number that does not fit into a word. -/
def outOfRange (arg : Text) : Text :=
  arg ++ ": Numerical result out of range".toList

/-- What is wrong with a number that leaves a rest or is out of range; a rest counts first. -/
def complaintOf (arg rest : Text) (isOutOfRange : Bool) : Option Text :=
  match complaint? arg rest with
  | some t => some t
  | none => if isOutOfRange then some (outOfRange arg) else none

/-- The number of the character behind a quote. -/
def quotedNumber? : Text → Option Nat
  | '"' :: t => some (t.headD '\x00').toNat
  | '\'' :: t => some (t.headD '\x00').toNat
  | _ => none

/-- Reads an argument as an integer between two bounds; a quote makes it the number of the character
behind it. -/
def integerOf (low high : Int) (arg : Text) : Int × Option Text :=
  match quotedNumber? arg, Integer.signed? Integer.prefixed? arg with
  | some n, _ => (n, none)
  | none, some (n, rest) =>
      let near := max low (min high n)
      (near, complaintOf arg rest (near ≠ n))
  | none, none => (0, complaint? arg arg)

/-- Reads an argument as a number with a point. -/
def realOf (arg : Text) : Real × Option Text :=
  match quotedNumber? arg, Real.read? arg with
  | some n, _ => (⟨false, Float.ofNat n⟩, none)
  | none, some (x, rest, isOutOfRange) => (x, complaintOf arg rest isOutOfRange)
  | none, none => (⟨false, 0.0⟩, complaint? arg arg)

/-- An argument under the field; a missing argument is an empty one.  There is nothing to show
under an unknown letter. -/
def shown? (f : Field) (arg : Text) : Option Shown :=
  let c := f.letter
  if c = 's' then some { text := f.pad (match f.places with | some n => arg.take n | none => arg) }
  else if c = 'b' then
    let (t, stop) := Escape.replaceAll arg
    some { text := f.pad (match f.places with | some n => t.take n | none => t), stop := stop }
  else if c = 'c' then some { text := f.pad [arg.headD '\x00'] }
  else if c = 'd' ∨ c = 'i' then
    let (n, complaint) := integerOf Integer.least Integer.greatest arg
    some { text := f.integer n, complaint := complaint }
  else if c = 'u' ∨ c = 'o' ∨ c = 'x' ∨ c = 'X' then
    let bound : Int := Integer.words - 1
    let (n, complaint) := integerOf (-bound) bound arg
    let n := if complaint = some (outOfRange arg) then bound else n
    some { text := f.word (Integer.toWord n), complaint := complaint }
  else if c ∈ "aAeEfFgG".toList then
    let (x, complaint) := realOf arg
    some { text := f.real x, complaint := complaint }
  else none

end Field

end Conformance.Shell
