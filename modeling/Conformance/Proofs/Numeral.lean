import Mathlib.Data.List.Induction
import Mathlib.Data.Nat.Digits.Defs
import Conformance.Numeral
import Conformance.Text.DecimalDigit

/-!
Numerals and the numbers they stand for.  Reading a numeral gives its positional value, whatever
its length, and a numeral that was written consists of digits.
-/

namespace Conformance.Numeral

def digitValue (c : Char) : Nat :=
  c.toNat - '0'.toNat

/-- The text is a run of ASCII digits whose positional value is the number. -/
structure Denotes (t : Text) (n : Nat) : Prop where
  ne_nil : t ≠ []
  isDigit : ∀ c ∈ t, c.isDigit = true
  value : Nat.ofDigits 10 (t.reverse.map digitValue) = n

theorem ofDigitChars_eq_ofDigits (t : Text) :
    Nat.ofDigitChars 10 t 0 = Nat.ofDigits 10 (t.reverse.map digitValue) := by
  induction t using List.reverseRecOn with
  | nil => rfl
  | append_singleton t c ih =>
      rw [Nat.ofDigitChars_append, ih]
      simp [Nat.ofDigitChars_cons, Nat.ofDigits_cons, digitValue, Nat.add_comm]

theorem value?_eq_some_iff {t : Text} {n : Nat} : value? t = some n ↔ Denotes t n := by
  unfold value?
  rw [ofDigitChars_eq_ofDigits]
  constructor
  · intro h
    split at h
    · next hnumeral =>
        simp only [isNumeral, Bool.and_eq_true, decide_eq_true_eq, List.all_eq_true] at hnumeral
        exact ⟨hnumeral.1, hnumeral.2, Option.some.inj h⟩
    · cases h
  · intro h
    have hnumeral : isNumeral t = true := by
      simp only [isNumeral, Bool.and_eq_true, decide_eq_true_eq, List.all_eq_true]
      exact ⟨h.ne_nil, h.isDigit⟩
    rw [if_pos hnumeral, h.value]

/-- A numeral is read into a word exactly if its value is that of the word. -/
theorem word?_eq_some_iff {t : Text} {w : UInt64} : word? t = some w ↔ Denotes t w.toNat := by
  rw [← value?_eq_some_iff, word?]
  cases value? t with
  | none => simp
  | some n =>
      dsimp only
      by_cases hn : n < UInt64.size
      · rw [if_pos hn, Option.some.injEq, Option.some.injEq]
        constructor
        · rintro rfl
          exact (UInt64.toNat_ofNat_of_lt' hn).symm
        · rintro rfl
          exact UInt64.ofNat_toNat
      · rw [if_neg hn, Option.some.injEq]
        refine iff_of_false nofun ?_
        rintro rfl
        exact hn w.toNat_lt

/-- Whether a numeral stands for a number below the bound of words can be told from the word that
is read. -/
theorem value?_eq_some_iff_word? {t : Text} {n : Nat} (hn : n < UInt64.size) :
    value? t = some n ↔ word? t = some (UInt64.ofNat n) := by
  rw [word?_eq_some_iff, UInt64.toNat_ofNat_of_lt' hn, value?_eq_some_iff]

theorem Denotes.unique {t : Text} {n m : Nat} (h : Denotes t n) (h' : Denotes t m) : n = m :=
  h.value.symm.trans h'.value

/-- Leading zeros leave the value as it is. -/
theorem Denotes.zeros_append {t : Text} {n : Nat} (h : Denotes t n) (count : Nat) :
    Denotes (List.replicate count '0' ++ t) n where
  ne_nil := List.append_ne_nil_of_right_ne_nil _ h.ne_nil
  isDigit c hc := by
    rcases List.mem_append.1 hc with hzero | hc
    · rw [List.eq_of_mem_replicate hzero]
      decide
    · exact h.isDigit c hc
  value := by
    rw [List.reverse_append, List.reverse_replicate, List.map_append, List.map_replicate]
    exact (Nat.ofDigits_append_replicate_zero _).trans h.value

example : value? "007".toList = some 7 ∧ value? "٣".toList = none := by decide

theorem denotes_ofNat (n : Nat) : Denotes (ofNat n) n :=
  value?_eq_some_iff.1 (value?_ofNat n)

theorem isDigits_ofNat (n : Nat) : Text.IsDigits (ofNat n) where
  ne_nil := (denotes_ofNat n).ne_nil
  isDecimalDigit c hc := Text.isDecimalDigit_of_isDigit ((denotes_ofNat n).isDigit c hc)

end Conformance.Numeral
