import Conformance.Text

/-!
Decimal digits of all scripts.  Every script that writes numbers in base ten has its ten digits in
a row, so the table holds the place of each digit zero.
-/

namespace Conformance.Text

/-- The places of the characters that are a digit zero. -/
def digitZeros : List Nat :=
  [ 0x0030, 0x0660, 0x06f0, 0x07c0, 0x0966, 0x09e6, 0x0a66, 0x0ae6, 0x0b66, 0x0be6,
    0x0c66, 0x0ce6, 0x0d66, 0x0de6, 0x0e50, 0x0ed0, 0x0f20, 0x1040, 0x1090, 0x17e0,
    0x1810, 0x1946, 0x19d0, 0x1a80, 0x1a90, 0x1b50, 0x1bb0, 0x1c40, 0x1c50, 0xa620,
    0xa8d0, 0xa900, 0xa9d0, 0xa9f0, 0xaa50, 0xabf0, 0xff10, 0x104a0, 0x10d30, 0x10d40,
    0x11066, 0x110f0, 0x11136, 0x111d0, 0x112f0, 0x11450, 0x114d0, 0x11650, 0x116c0, 0x116d0,
    0x116da, 0x11730, 0x118e0, 0x11950, 0x11bf0, 0x11c50, 0x11d50, 0x11da0, 0x11f50, 0x16130,
    0x16a60, 0x16ac0, 0x16b50, 0x16d70, 0x1ccf0, 0x1d7ce, 0x1d7d8, 0x1d7e2, 0x1d7ec, 0x1d7f6,
    0x1e140, 0x1e2f0, 0x1e4f0, 0x1e5f1, 0x1e950, 0x1fbf0]

/-- Is the character one of the ten digits that some script writes numbers with? -/
def isDecimalDigit (c : Char) : Bool :=
  digitZeros.any fun first => first ≤ c.toNat && c.toNat < first + 10

/-- The run of digits that a text starts with, and what follows it; none if there is no digit. -/
def digits? (t : Text) : Option (Text × Text) :=
  if t.takeWhile isDecimalDigit = [] then none
  else some (t.takeWhile isDecimalDigit, t.dropWhile isDecimalDigit)

/-- The text is a run of decimal digits, at least one of them. -/
structure IsDigits (t : Text) : Prop where
  ne_nil : t ≠ []
  isDecimalDigit : ∀ c ∈ t, isDecimalDigit c = true

theorem digits?_eq_some {t line rest : Text} (h : digits? t = some (line, rest)) :
    IsDigits line ∧ t = line ++ rest := by
  unfold digits? at h
  split at h
  · cases h
  · next hne =>
      simp only [Option.some.injEq, Prod.mk.injEq] at h
      obtain ⟨rfl, rfl⟩ := h
      refine ⟨⟨hne, fun c hc => ?_⟩, List.takeWhile_append_dropWhile.symm⟩
      exact List.all_eq_true.1 List.all_takeWhile c hc

/-- A run of digits is read up to the character that ends it. -/
theorem digits?_append_cons {line : Text} (hline : IsDigits line) {c : Char}
    (hc : isDecimalDigit c = false) (rest : Text) :
    digits? (line ++ c :: rest) = some (line, c :: rest) := by
  have htake : (line ++ c :: rest).takeWhile isDecimalDigit = line := by
    rw [List.takeWhile_append_of_pos hline.isDecimalDigit]
    simp [hc]
  have hdrop : (line ++ c :: rest).dropWhile isDecimalDigit = c :: rest := by
    rw [List.dropWhile_append_of_pos hline.isDecimalDigit]
    simp [hc]
  rw [digits?, htake, hdrop, if_neg hline.ne_nil]

/-- The digits of ASCII are decimal digits. -/
theorem isDecimalDigit_of_isDigit {c : Char} (h : c.isDigit = true) : isDecimalDigit c = true := by
  simp only [Char.isDigit, Bool.and_eq_true, decide_eq_true_eq] at h
  have hlow : 0x30 ≤ c.toNat := h.1
  have hhigh : c.toNat ≤ 0x39 := h.2
  rw [isDecimalDigit, List.any_eq_true]
  refine ⟨0x30, by simp [digitZeros], ?_⟩
  simp only [Bool.and_eq_true, decide_eq_true_eq]
  omega

example : isDecimalDigit '7' = true ∧ isDecimalDigit '٣' = true ∧ isDecimalDigit '①' = false := by
  decide

end Conformance.Text
