import Conformance.Text

/-!
Numbers in base ten with the digits of ASCII.  A natural number is written without leading zeros;
a numeral that is read may have them and may have any length.
-/

namespace Conformance.Numeral

def ofNat (n : Nat) : Text :=
  Nat.toDigits 10 n

/-- The numeral of an integer, with a minus sign if it is negative. -/
def ofInt : Int → Text
  | .ofNat n => ofNat n
  | .negSucc n => '-' :: ofNat (n + 1)

/-- Is the text a run of ASCII digits, at least one of them? -/
def isNumeral (t : Text) : Bool :=
  t ≠ [] && t.all Char.isDigit

/-- The value of a run of ASCII digits, whatever its length. -/
def value? (t : Text) : Option Nat :=
  if isNumeral t then some (Nat.ofDigitChars 10 t 0) else none

/-- The value of a run of ASCII digits that fits into a word of 64 bits. -/
def word? (t : Text) : Option UInt64 :=
  match value? t with
  | none => none
  | some n => if n < UInt64.size then some (UInt64.ofNat n) else none

/-- Reading a numeral that was written gives the number back. -/
@[simp] theorem value?_ofNat (n : Nat) : value? (ofNat n) = some n := by
  have hne : Nat.toDigits 10 n ≠ [] := Nat.toDigits_ne_nil
  have hall : (Nat.toDigits 10 n).all Char.isDigit = true := by
    rw [List.all_eq_true]
    intro c hc
    exact Nat.isDigit_of_mem_toDigits (by decide) (by decide) hc
  have hval : Nat.ofDigitChars 10 (Nat.toDigits 10 n) 0 = n :=
    Nat.ofDigitChars_toDigits (by decide) (by decide)
  simp [value?, isNumeral, ofNat, hne, hall, hval]

end Conformance.Numeral
