import Mathlib.Algebra.Ring.Nat
import Mathlib.Tactic.SplitIfs
import Conformance.Text.Utf8

/-!
Texts written in UTF-8 and read again.  What was written is read back, whatever its characters; and
whatever the bytes, a line feed ends a character that has begun before it, so that the lines of a
file decode one by one.
-/

namespace Conformance.Text

section Bytes

variable {b : UInt8} {low high more value : Nat}

/-- The last byte of a character that has begun. -/
theorem decodeFrom_last (hlow : low ≤ b.toNat) (hhigh : b.toNat ≤ high) (rest : List UInt8) :
    decodeFrom (some ⟨low, high, 0, value⟩) (b :: rest) =
      Char.ofNat (value * 64 + (b.toNat - 0x80)) :: decodeFrom none rest := by
  simp [decodeFrom, decodeByte, nextByte, hlow, hhigh]

/-- A byte of a character that has begun and goes on. -/
theorem decodeFrom_more (hlow : low ≤ b.toNat) (hhigh : b.toNat ≤ high) (rest : List UInt8) :
    decodeFrom (some ⟨low, high, more + 1, value⟩) (b :: rest) =
      decodeFrom (some ⟨0x80, 0xBF, more, value * 64 + (b.toNat - 0x80)⟩) rest := by
  simp [decodeFrom, decodeByte, nextByte, hlow, hhigh]

/-- The only byte of a character. -/
theorem decodeFrom_ascii (h : b.toNat < 0x80) (rest : List UInt8) :
    decodeFrom none (b :: rest) = Char.ofNat b.toNat :: decodeFrom none rest := by
  simp [decodeFrom, decodeByte, firstByte, h]

/-- The first of two bytes. -/
theorem decodeFrom_two (hlow : 0xC2 ≤ b.toNat) (hhigh : b.toNat < 0xE0) (rest : List UInt8) :
    decodeFrom none (b :: rest) = decodeFrom (some ⟨0x80, 0xBF, 0, b.toNat - 0xC0⟩) rest := by
  have h₁ : ¬ b.toNat < 0x80 := by omega
  have h₂ : ¬ b.toNat < 0xC2 := by omega
  simp [decodeFrom, decodeByte, firstByte, h₁, h₂, hhigh]

/-- The first of three bytes; it bounds the second one where that could spell a character in a
longer way than needed, or a surrogate. -/
theorem decodeFrom_three (hlow : 0xE0 ≤ b.toNat) (hhigh : b.toNat < 0xF0) (rest : List UInt8) :
    decodeFrom none (b :: rest) =
      decodeFrom (some ⟨if b.toNat = 0xE0 then 0xA0 else 0x80,
        if b.toNat = 0xED then 0x9F else 0xBF, 1, b.toNat - 0xE0⟩) rest := by
  have h₁ : ¬ b.toNat < 0x80 := by omega
  have h₂ : ¬ b.toNat < 0xC2 := by omega
  have h₃ : ¬ b.toNat < 0xE0 := by omega
  by_cases hE0 : b.toNat = 0xE0
  · simp [decodeFrom, decodeByte, firstByte, hE0]
  by_cases hED : b.toNat = 0xED
  · simp [decodeFrom, decodeByte, firstByte, hED]
  · simp [decodeFrom, decodeByte, firstByte, h₁, h₂, h₃, hE0, hED, hhigh]

/-- The first of four bytes; it bounds the second one where that could spell a character in a
longer way than needed, or a number that is too large. -/
theorem decodeFrom_four (hlow : 0xF0 ≤ b.toNat) (hhigh : b.toNat ≤ 0xF4) (rest : List UInt8) :
    decodeFrom none (b :: rest) =
      decodeFrom (some ⟨if b.toNat = 0xF0 then 0x90 else 0x80,
        if b.toNat = 0xF4 then 0x8F else 0xBF, 2, b.toNat - 0xF0⟩) rest := by
  have h₁ : ¬ b.toNat < 0x80 := by omega
  have h₂ : ¬ b.toNat < 0xC2 := by omega
  have h₃ : ¬ b.toNat < 0xE0 := by omega
  have h₄ : ¬ b.toNat < 0xF0 := by omega
  have h₅ : b.toNat ≠ 0xE0 := by omega
  have h₆ : b.toNat ≠ 0xED := by omega
  by_cases hF0 : b.toNat = 0xF0
  · simp [decodeFrom, decodeByte, firstByte, hF0]
  by_cases hF4 : b.toNat = 0xF4
  · simp [decodeFrom, decodeByte, firstByte, hF4]
  · have h₇ : b.toNat < 0xF4 := by omega
    simp [decodeFrom, decodeByte, firstByte, h₁, h₂, h₃, h₄, h₅, h₆, h₇, hF0, hF4]

end Bytes

/-- The bytes of a character give this character. -/
theorem decodeFrom_encodeChar (c : Char) (rest : List UInt8) :
    decodeFrom none (String.utf8EncodeChar c ++ rest) = c :: decodeFrom none rest := by
  have hchar : Char.ofNat c.val.toNat = c := Char.ofNat_toNat c
  have hvalid : c.val.toNat < 0xD800 ∨ (0xDFFF < c.val.toNat ∧ c.val.toNat < 0x110000) := c.valid
  have hbyte : ∀ n < 256, (UInt8.ofNat n).toNat = n := fun n h => UInt8.toNat_ofNat_of_lt' h
  simp only [String.utf8EncodeChar]
  generalize c.val.toNat = v at *
  -- One case for each number of bytes; the bytes hold the digits of `v` in base 64.
  split_ifs with hone htwo hthree <;> simp only [List.cons_append, List.nil_append]
  · have h₁ := hbyte v (by omega)
    rw [decodeFrom_ascii (by omega), h₁, hchar]
  · have h₁ := hbyte (v / 64 % 0x20 + 0xC0) (by omega)
    have h₂ := hbyte (v % 0x40 + 0x80) (by omega)
    rw [decodeFrom_two (by omega) (by omega), decodeFrom_last (by omega) (by omega), h₁, h₂]
    rw [show (v / 64 % 0x20 + 0xC0 - 0xC0) * 64 + (v % 0x40 + 0x80 - 0x80) = v by omega, hchar]
  · have h₁ := hbyte (v / 4096 % 0x10 + 0xE0) (by omega)
    have h₂ := hbyte (v / 64 % 0x40 + 0x80) (by omega)
    have h₃ := hbyte (v % 0x40 + 0x80) (by omega)
    rw [decodeFrom_three (by omega) (by omega), decodeFrom_more (by split_ifs <;> omega)
      (by split_ifs <;> omega), decodeFrom_last (by omega) (by omega), h₁, h₂, h₃]
    rw [show ((v / 4096 % 0x10 + 0xE0 - 0xE0) * 64 + (v / 64 % 0x40 + 0x80 - 0x80)) * 64 +
      (v % 0x40 + 0x80 - 0x80) = v by omega, hchar]
  · have h₁ := hbyte (v / 262144 % 0x08 + 0xF0) (by omega)
    have h₂ := hbyte (v / 4096 % 0x40 + 0x80) (by omega)
    have h₃ := hbyte (v / 64 % 0x40 + 0x80) (by omega)
    have h₄ := hbyte (v % 0x40 + 0x80) (by omega)
    rw [decodeFrom_four (by omega) (by omega), decodeFrom_more (by split_ifs <;> omega)
      (by split_ifs <;> omega), decodeFrom_more (by omega) (by omega),
      decodeFrom_last (by omega) (by omega), h₁, h₂, h₃, h₄]
    rw [show (((v / 262144 % 0x08 + 0xF0 - 0xF0) * 64 + (v / 4096 % 0x40 + 0x80 - 0x80)) * 64 +
      (v / 64 % 0x40 + 0x80 - 0x80)) * 64 + (v % 0x40 + 0x80 - 0x80) = v by omega, hchar]

/-- A text is read back from its bytes. -/
@[simp] theorem ofUtf8_toUtf8 (t : Text) : ofUtf8 (toUtf8 t) = t := by
  unfold ofUtf8
  induction t with
  | nil => rfl
  | cons c t ih =>
      have hbytes : toUtf8 (c :: t) = String.utf8EncodeChar c ++ toUtf8 t := rfl
      rw [hbytes, decodeFrom_encodeChar, ih]

/-! ### Line feeds -/

theorem ofNat_ne_newline {n : Nat} (h : n ≠ 0x0A) : Char.ofNat n ≠ '\n' := by
  intro heq
  by_cases hvalid : n.isValidChar
  · have hcode := congrArg Char.toNat heq
    rw [Char.ofNat, dif_pos hvalid] at hcode
    exact h hcode
  · rw [Char.ofNat, dif_neg hvalid] at heq
    revert heq
    decide

/-- The least value that a character which has begun can still take. -/
def Begun.least (begun : Begun) : Nat :=
  (begun.value * 64 + (begun.low - 0x80)) * 64 ^ begun.more

/-- A character of several bytes is no ASCII character, and neither is its next byte. -/
structure Begun.PastAscii (begun : Begun) : Prop where
  low : 0x80 ≤ begun.low
  least : 0x80 ≤ begun.least

section LineFeed

variable {b : UInt8} {begun next : Begun} {state : Option Begun} {bytes : List UInt8}

theorem pastAscii_of_firstByte (h : (firstByte b).2 = some next) : next.PastAscii := by
  simp only [firstByte] at h
  split_ifs at h <;> cases h <;> refine ⟨?_, ?_⟩ <;> simp only [Begun.least] <;> omega

theorem Begun.PastAscii.nextByte (hbegun : begun.PastAscii)
    (h : (nextByte begun b).2 = some next) : next.PastAscii := by
  obtain ⟨low, high, more, value⟩ := begun
  simp only [Text.nextByte] at h
  split_ifs at h with hbounds
  · cases more with
    | zero => cases h
    | succ more =>
        cases h
        refine ⟨Nat.le_refl _, ?_⟩
        calc 0x80 ≤ (value * 64 + (low - 0x80)) * 64 ^ (more + 1) := hbegun.least
          _ ≤ (value * 64 + (b.toNat - 0x80)) * 64 ^ (more + 1) := by
              apply Nat.mul_le_mul_right
              omega
          _ = Begun.least ⟨0x80, 0xBF, more, value * 64 + (b.toNat - 0x80)⟩ := by
              simp [Begun.least, Nat.pow_succ', Nat.mul_assoc]
  · exact pastAscii_of_firstByte h

theorem pastAscii_of_decodeByte (hstate : ∀ begun ∈ state, begun.PastAscii) :
    ∀ next ∈ (decodeByte state b).2, next.PastAscii := by
  intro next h
  cases state with
  | none => exact pastAscii_of_firstByte h
  | some begun => exact (hstate begun rfl).nextByte h

theorem not_mem_firstByte (hb : b ≠ 0x0A) : '\n' ∉ (firstByte b).1 := by
  have hcode : b.toNat ≠ 0x0A := fun heq => hb (UInt8.toNat_inj.1 heq)
  simp only [firstByte]
  split_ifs <;> simp [replacement, (ofNat_ne_newline hcode).symm]

theorem Begun.PastAscii.not_mem_nextByte (hbegun : begun.PastAscii) (hb : b ≠ 0x0A) :
    '\n' ∉ (Text.nextByte begun b).1 := by
  obtain ⟨low, high, more, value⟩ := begun
  simp only [Text.nextByte]
  split_ifs with hbounds
  · cases more with
    | zero =>
        have hleast := hbegun.least
        simp only [Begun.least] at hleast
        have hvalue : value * 64 + (b.toNat - 0x80) ≠ 0x0A := by omega
        simp [(ofNat_ne_newline hvalue).symm]
    | succ more => simp
  · simp [replacement, not_mem_firstByte hb]

theorem not_mem_decodeByte (hstate : ∀ begun ∈ state, begun.PastAscii) (hb : b ≠ 0x0A) :
    '\n' ∉ (decodeByte state b).1 := by
  cases state with
  | none => exact not_mem_firstByte hb
  | some begun => exact (hstate begun rfl).not_mem_nextByte hb

theorem decodeFrom_cons (state : Option Begun) (b : UInt8) (rest : List UInt8) :
    decodeFrom state (b :: rest) =
      (decodeByte state b).1 ++ decodeFrom (decodeByte state b).2 rest := by
  cases state <;> rfl

theorem not_mem_decodeFrom (hstate : ∀ begun ∈ state, begun.PastAscii) (hbytes : 0x0A ∉ bytes) :
    '\n' ∉ decodeFrom state bytes := by
  induction bytes generalizing state with
  | nil => cases state <;> simp [decodeFrom, replacement]
  | cons b bytes ih =>
      rw [List.mem_cons, not_or] at hbytes
      rw [decodeFrom_cons]
      apply List.not_mem_append
      · exact not_mem_decodeByte hstate (Ne.symm hbytes.1)
      · exact ih (pastAscii_of_decodeByte hstate) hbytes.2

/-- A line feed ends whatever has begun and starts afresh. -/
theorem decodeFrom_lineFeed (hstate : ∀ begun ∈ state, begun.PastAscii) (rest : List UInt8) :
    decodeFrom state (0x0A :: rest) = decodeFrom state [] ++ '\n' :: decodeFrom none rest := by
  cases state with
  | none => exact decodeFrom_ascii (by decide) rest
  | some begun =>
      have hlow := (hstate begun rfl).low
      have houtside : ¬ (begun.low ≤ (0x0A : UInt8).toNat ∧ (0x0A : UInt8).toNat ≤ begun.high) := by
        have hbyte : (0x0A : UInt8).toNat = 0x0A := rfl
        omega
      rw [decodeFrom_cons, decodeByte, nextByte, if_neg houtside]
      rfl

theorem decodeFrom_append_lineFeed (hstate : ∀ begun ∈ state, begun.PastAscii)
    (front rest : List UInt8) :
    decodeFrom state (front ++ 0x0A :: rest) =
      decodeFrom state front ++ '\n' :: decodeFrom none rest := by
  induction front generalizing state with
  | nil => exact decodeFrom_lineFeed hstate rest
  | cons b front ih =>
      rw [List.cons_append, decodeFrom_cons, decodeFrom_cons, ih (pastAscii_of_decodeByte hstate),
        List.append_assoc]

end LineFeed

theorem not_mem_ofUtf8 {bytes : List UInt8} (h : 0x0A ∉ bytes) : '\n' ∉ ofUtf8 bytes :=
  not_mem_decodeFrom (by simp) h

theorem ofUtf8_append_lineFeed (front rest : List UInt8) :
    ofUtf8 (front ++ 0x0A :: rest) = ofUtf8 front ++ '\n' :: ofUtf8 rest :=
  decodeFrom_append_lineFeed (by simp) front rest

example : ofUtf8 [0xE9, 0x94, 0x0A, 0x62] = [replacement, '\n', 'b'] := by decide

/-- Lines decode one by one: no byte before a line feed changes what follows it. -/
theorem ofUtf8_joinWith (lines : List (List UInt8)) :
    ofUtf8 (joinWith 0x0A lines) = joinWith '\n' (lines.map ofUtf8) := by
  induction lines with
  | nil => rfl
  | cons line lines ih =>
      cases lines with
      | nil => rfl
      | cons next lines =>
          rw [joinWith, ofUtf8_append_lineFeed, ih]
          rfl

/-- The pieces of a decoded text are the decoded pieces of its bytes. -/
theorem pieces_ofUtf8 (bytes : List UInt8) :
    pieces '\n' (ofUtf8 bytes) = (pieces 0x0A bytes).map ofUtf8 := by
  calc pieces '\n' (ofUtf8 bytes)
      = pieces '\n' (joinWith '\n' ((pieces 0x0A bytes).map ofUtf8)) := by
        rw [← ofUtf8_joinWith, joinWith_pieces]
    _ = (pieces 0x0A bytes).map ofUtf8 := by
        apply pieces_joinWith
        · simp [pieces_ne_nil]
        · intro line hline
          obtain ⟨piece, hpiece, rfl⟩ := List.mem_map.1 hline
          exact not_mem_ofUtf8 (not_mem_of_mem_pieces hpiece)

end Conformance.Text
