import Mathlib.Data.List.DropRight
import Mathlib.Tactic.SplitIfs
import Mathlib.Tactic.Ring
import Mathlib.Data.List.TakeWhile
import Conformance.Decimal.Shortest
import Conformance.Proofs.Numeral

/-!
The shortest digits of a floating-point number.  Seventeen digits always do: the decimals with so
many digits lie closer together than the values that round to one number reach.  So every finite
number above zero has digits, and the first of them is no zero.
-/

namespace Conformance.Decimal

theorem ratio_pos {b m : Nat} (hb : 0 < b) (hm : 0 < m) (e : Int) :
    0 < (ratio b m e).1 ∧ 0 < (ratio b m e).2 := by
  cases e with
  | ofNat e => exact ⟨Nat.mul_pos hm (Nat.pow_pos hb), Nat.one_pos⟩
  | negSucc e => exact ⟨hm, Nat.pow_pos hb⟩

/-- The digits before the point are no more than the value has. -/
theorem pow_length_le {n d : Nat} (hd : 0 < d) (h : d ≤ n) :
    10 ^ ((Numeral.ofNat (n / d)).length - 1) * d ≤ n := by
  have hquotient : 0 < n / d := Nat.div_pos h hd
  have hle : 10 ^ ((Numeral.ofNat (n / d)).length - 1) ≤ n / d := by
    by_contra hlt
    rcases Nat.eq_zero_or_pos ((Numeral.ofNat (n / d)).length - 1) with hzero | hpos
    · rw [hzero] at hlt
      omega
    · have := (Nat.length_toDigits_le_iff (b := 10) (n := n / d) (by decide) hpos).2 (by omega)
      rw [← Numeral.ofNat] at this
      omega
  exact (Nat.le_div_iff_mul_le hd).1 hle

/-- Below one, the zeros behind the point are no fewer than the value has. -/
theorem le_mul_pow_zeros {n d : Nat} (bound : Nat) (h : d ≤ n * 10 ^ (bound + 1)) :
    d ≤ n * 10 ^ (((List.range (bound + 1)).takeWhile
      fun z => n * Nat.pow 10 (z + 1) < d).length + 1) := by
  have hends : ∃ z ∈ List.range (bound + 1), (!decide (n * Nat.pow 10 (z + 1) < d)) = true := by
    refine ⟨bound, List.mem_range.2 (Nat.lt_succ_self bound), ?_⟩
    rw [Bool.not_eq_true', decide_eq_false_iff_not, Nat.not_lt]
    exact h
  have hlt := List.findIdx_lt_length_of_exists hends
  have hstops := List.findIdx_getElem (w := hlt)
  rw [List.getElem_range, Bool.not_eq_true', decide_eq_false_iff_not, Nat.not_lt] at hstops
  rw [List.takeWhile_eq_take_findIdx_not, List.length_take, Nat.min_eq_left (Nat.le_of_lt hlt)]
  exact hstops

/-- Decimals with seventeen digits lie closer together than one part in ten to the sixteenth of
their size. -/
theorem ratio_seventeen {n d : Nat} (hd : 0 < d) (h : d ≤ n * 10 ^ (399 + 1)) :
    (ratio 10 1 (pointOf n d - (17 : Nat))).1 * d * 10 ^ 16 ≤
      n * (ratio 10 1 (pointOf n d - (17 : Nat))).2 := by
  unfold pointOf
  split_ifs with hle
  · have hpow := pow_length_le hd hle
    have hlength : 0 < (Numeral.ofNat (n / d)).length := Nat.length_toDigits_pos
    generalize (Numeral.ofNat (n / d)).length = length at *
    rcases Nat.lt_or_ge length 17 with hshort | hlong
    · rw [show (length : Int) - (17 : Nat) = Int.negSucc (16 - length) by omega]
      calc 1 * d * 10 ^ 16
          = 1 * d * 10 ^ (length - 1 + (16 - length + 1)) := by
            rw [show length - 1 + (16 - length + 1) = 16 by omega]
        _ = 10 ^ (length - 1) * d * 10 ^ (16 - length + 1) := by ring
        _ ≤ n * 10 ^ (16 - length + 1) := Nat.mul_le_mul_right _ hpow
    · rw [show (length : Int) - (17 : Nat) = Int.ofNat (length - 17) by simp; omega]
      calc (1 * 10 ^ (length - 17)) * d * 10 ^ 16
          = 10 ^ (length - 17 + 16) * d := by ring
        _ = 10 ^ (length - 1) * d := by rw [show length - 17 + 16 = length - 1 by omega]
        _ ≤ n * 1 := by rwa [Nat.mul_one]
  · have hzeros := le_mul_pow_zeros 399 h
    dsimp only
    generalize ((List.range (399 + 1)).takeWhile fun z => n * Nat.pow 10 (z + 1) < d).length = zeros
      at hzeros ⊢
    have hpoint : Int.negOfNat zeros - (17 : Nat) = Int.negSucc (zeros + 16) := by
      rw [Int.negOfNat_eq, Int.ofNat_eq_natCast]
      clear h hzeros
      omega
    rw [hpoint]
    calc 1 * d * 10 ^ 16 = d * 10 ^ 16 := by rw [Nat.one_mul]
      _ ≤ n * 10 ^ (zeros + 1) * 10 ^ 16 := Nat.mul_le_mul_right _ hzeros
      _ = n * 10 ^ (zeros + 16 + 1) := by ring

/-- The value lies inside the interval, which holds positive values only. -/
structure Interval.Proper (i : Interval) : Prop where
  low_pos : 0 < i.low
  low_lt : i.low < i.value
  lt_high : i.value < i.high
  unit_pos : 0 < i.unit

theorem interval_proper {m : Nat} (hm : 0 < m) (e : Int) : (interval m e).Proper := by
  obtain ⟨hscale, hunit⟩ := ratio_pos (b := 2) (m := 1) (by decide) (by decide) (e - 2)
  have hbelow : (if m = fractions ∧ e > -1074 then 1 else 2) < 4 * m := by
    split_ifs <;> omega
  have hpos : 0 < (if m = fractions ∧ e > -1074 then 1 else 2) := by
    split_ifs <;> decide
  exact ⟨Nat.mul_pos (by omega) hscale, Nat.mul_lt_mul_of_pos_right (by omega) hscale,
    Nat.mul_lt_mul_of_pos_right (by omega) hscale, hunit⟩

theorem Interval.Proper.refine {i : Interval} (h : i.Proper) {factor : Nat} (hfactor : 0 < factor) :
    (i.refine factor).Proper :=
  ⟨Nat.mul_pos h.low_pos hfactor, Nat.mul_lt_mul_of_pos_right h.low_lt hfactor,
    Nat.mul_lt_mul_of_pos_right h.lt_high hfactor, h.unit_pos⟩

/-- Numbers of fifty-three binary digits lie further apart than one part in ten to the sixteenth of
their size. -/
theorem interval_wide {m : Nat} (hm : 0 < m) (hmax : m < 2 ^ 53) (e : Int) :
    (interval m e).value < 10 ^ 16 * ((interval m e).high - (interval m e).low) := by
  obtain ⟨hscale, -⟩ := ratio_pos (b := 2) (m := 1) (by decide) (by decide) (e - 2)
  have hwide : 4 * m < 10 ^ 16 *
      ((4 * m + 2) - (4 * m - if m = fractions ∧ e > -1074 then 1 else 2)) := by
    split_ifs with hpower
    · rw [hpower.1]
      decide
    · omega
  calc 4 * m * (ratio 2 1 (e - 2)).1
      < 10 ^ 16 * ((4 * m + 2) - (4 * m - if m = fractions ∧ e > -1074 then 1 else 2)) *
          (ratio 2 1 (e - 2)).1 := Nat.mul_lt_mul_of_pos_right hwide hscale
    _ = _ := by rw [Nat.mul_assoc, Nat.sub_mul]; rfl

theorem two_pow_le_ten_pow {k n : Nat} (h : k ≤ 3 * n) : 2 ^ k ≤ 10 ^ n := by
  calc 2 ^ k ≤ 2 ^ (3 * n) := Nat.pow_le_pow_right (by decide) h
    _ = (2 ^ 3) ^ n := Nat.pow_mul ..
    _ ≤ 10 ^ n := Nat.pow_le_pow_left (by decide) n

/-- The least numbers are not too small for the search of the first digit. -/
theorem unit_le_value {m : Nat} (hm : 0 < m) {e : Int} (he : -1074 ≤ e) {bound : Nat}
    (hbound : 1076 ≤ 3 * bound) :
    (interval m e).unit ≤ (interval m e).value * 10 ^ bound := by
  obtain ⟨hscale, -⟩ := ratio_pos (b := 2) (m := 1) (by decide) (by decide) (e - 2)
  have hunit : (ratio 2 1 (e - 2)).2 ≤ 10 ^ bound := by
    cases hexponent : e - 2 with
    | ofNat k => exact Nat.one_le_pow _ _ (by decide)
    | negSucc k => exact two_pow_le_ten_pow (by omega)
  have hvalue : 1 ≤ (interval m e).value := Nat.mul_pos (by omega) hscale
  calc (interval m e).unit ≤ 1 * 10 ^ bound := by rw [Nat.one_mul]; exact hunit
    _ ≤ (interval m e).value * 10 ^ bound := Nat.mul_le_mul_right _ hvalue

theorem Interval.holds_of_lt {i : Interval} {x : Nat} (hlow : i.low < x) (hhigh : x < i.high) :
    i.holds x = true := by
  unfold holds
  split_ifs <;> simp <;> omega

theorem Interval.low_le_of_holds {i : Interval} {x : Nat} (h : i.holds x = true) : i.low ≤ x := by
  unfold holds at h
  split_ifs at h <;> simp at h <;> omega

/-- A grid that is finer than the interval is wide has a hit next to the value. -/
theorem Interval.Proper.holds_neighbour {i : Interval} (h : i.Proper) {step : Nat}
    (hstep : 0 < step) (hfine : step < i.high - i.low) :
    i.holds (i.value / step * step) = true ∨ i.holds ((i.value / step + 1) * step) = true := by
  have hlower : i.value / step * step ≤ i.value := Nat.div_mul_le_self _ _
  have hupper : i.value < (i.value / step + 1) * step :=
    Nat.lt_mul_of_div_lt (Nat.lt_succ_self _) hstep
  have hnext : (i.value / step + 1) * step = i.value / step * step + step := Nat.succ_mul _ _
  obtain ⟨-, hlow, hhigh, -⟩ := h
  by_cases hin : i.low < i.value / step * step
  · exact .inl (holds_of_lt hin (by omega))
  · exact .inr (holds_of_lt (by omega) (by omega))

/-- Some decimal with seventeen digits reads back. -/
theorem onGrid?_seventeen {m : Nat} (hm : 0 < m) (hmax : m < 2 ^ 53) {e : Int} (he : -1074 ≤ e) :
    onGrid? (interval m e) (pointOf (interval m e).value (interval m e).unit) 17 ≠ none := by
  have hproper := interval_proper hm e
  have hwide := interval_wide hm hmax e
  have hfine := ratio_seventeen hproper.unit_pos (unit_le_value hm he (by decide))
  generalize interval m e = i at hproper hwide hfine ⊢
  obtain ⟨hnumerator, hdenominator⟩ := ratio_pos (b := 10) (m := 1) (by decide) (by decide)
    (pointOf i.value i.unit - (17 : Nat))
  unfold onGrid?
  generalize ratio 10 1 (pointOf i.value i.unit - (17 : Nat)) = r at hnumerator hdenominator hfine ⊢
  obtain ⟨numerator, denominator⟩ := r
  dsimp only at hnumerator hdenominator hfine ⊢
  have hstep : numerator * i.unit <
      (i.refine denominator).high - (i.refine denominator).low := by
    have : i.value * denominator < 10 ^ 16 * ((i.high - i.low) * denominator) := by
      rw [← Nat.mul_assoc]
      exact Nat.mul_lt_mul_of_pos_right hwide hdenominator
    change _ < i.high * denominator - i.low * denominator
    rw [← Nat.sub_mul]
    omega
  have hhit := (hproper.refine hdenominator).holds_neighbour
    (Nat.mul_pos hnumerator hproper.unit_pos) hstep
  split
  · split_ifs <;> simp
  · simp
  · simp
  · next hlower hupper =>
      rcases hhit with hhit | hhit
      · exact absurd (hhit.symm.trans hlower) (by decide)
      · exact absurd (hhit.symm.trans hupper) (by decide)

/-- A hit on a grid is no zero, because the interval holds positive values only. -/
theorem pos_of_onGrid? {i : Interval} (h : i.Proper) {point : Int} {count d : Nat}
    (hd : onGrid? i point count = some d) : 0 < d := by
  obtain ⟨-, hdenominator⟩ := ratio_pos (b := 10) (m := 1) (by decide) (by decide)
    (point - count)
  have hproper := h.refine hdenominator
  have hpos : ∀ {x step}, (i.refine (ratio 10 1 (point - count)).2).holds (x * step) = true →
      0 < x := by
    intro x step hholds
    have hlow := Interval.low_le_of_holds hholds
    have hpos : 0 < x * step := Nat.lt_of_lt_of_le hproper.low_pos hlow
    exact Nat.pos_of_mul_pos_right hpos
  unfold onGrid? at hd
  dsimp only at hd
  split at hd
  · next hlower hupper =>
      split_ifs at hd
      · exact Option.some.inj hd ▸ hpos hlower
      · exact Option.some.inj hd ▸ hpos hupper
  · next hlower _ => exact Option.some.inj hd ▸ hpos hlower
  · next _ hupper => exact Option.some.inj hd ▸ hpos hupper
  · cases hd

/-- The digits are those of a number: there is one, the first is no zero. -/
structure Digits.IsNormal (d : Digits) : Prop where
  isDigit : ∀ c ∈ d.digits, c.isDigit = true
  first : ∃ c rest, d.digits = c :: rest ∧ c ≠ '0'

theorem ofNat_first {n : Nat} (hn : 0 < n) : ∃ c rest, Numeral.ofNat n = c :: rest ∧ c ≠ '0' := by
  unfold Numeral.ofNat
  induction n using Nat.strongRecOn with
  | ind n ih =>
      by_cases hsmall : n < 10
      · refine ⟨_, _, Nat.toDigits_of_lt_base hsmall, ?_⟩
        rw [ne_eq, Nat.digitChar_eq_zero]
        omega
      · obtain ⟨c, rest, hc, hne⟩ := ih (n / 10) (by omega) (by omega)
        exact ⟨c, _, by rw [Nat.toDigits_of_base_le (by decide) (by omega), hc]; rfl, hne⟩

theorem dropZeros_eq (t : Text) : dropZeros t = t.rdropWhile (· = '0') := rfl

/-- Digits that start with no zero keep their start. -/
theorem dropZeros_cons {c : Char} (hc : c ≠ '0') (t : Text) :
    ∃ rest, dropZeros (c :: t) = c :: rest := by
  have hprefix : dropZeros (c :: t) <+: c :: t := List.rdropWhile_prefix _ _
  have hne : dropZeros (c :: t) ≠ [] := by
    rw [dropZeros_eq, ne_eq, List.rdropWhile_eq_nil_iff]
    intro hall
    exact hc (by simpa using hall c List.mem_cons_self)
  obtain ⟨d, rest, hrest⟩ := List.exists_cons_of_ne_nil hne
  rw [hrest, List.cons_prefix_cons] at hprefix
  exact ⟨rest, by rw [hrest, hprefix.1]⟩

/-- Every positive number of this size has digits. -/
theorem shortest_isNormal {m : Nat} (hm : 0 < m) (hmax : m < 2 ^ 53) {e : Int} (he : -1074 ≤ e) :
    (shortest m e).IsNormal := by
  unfold shortest
  dsimp only
  split
  · next count d hfound =>
      obtain ⟨n, -, hhit⟩ := List.exists_of_findSome?_eq_some hfound
      rw [Option.map_eq_some_iff] at hhit
      obtain ⟨d', hhit, hpair⟩ := hhit
      cases hpair
      obtain ⟨c, rest, hdigits, hc⟩ := ofNat_first (pos_of_onGrid? (interval_proper hm e) hhit)
      obtain ⟨kept, hkept⟩ := dropZeros_cons hc rest
      refine ⟨fun x hx => ?_, c, kept, by rw [hdigits, hkept], hc⟩
      exact (Numeral.denotes_ofNat d).isDigit x ((List.rdropWhile_prefix _ _).subset hx)
  · next hnone =>
      rw [List.findSome?_eq_none_iff] at hnone
      have hlast := hnone 16 (List.mem_range.2 (by decide))
      rw [Option.map_eq_none_iff] at hlast
      exact absurd hlast (onGrid?_seventeen hm hmax he)

/-- The magnitudes of floating-point numbers. -/
theorem magnitude_eq_finite {x : Float} {m : Nat} {e : Int} (h : magnitude x = .finite m e) :
    m < 2 ^ 53 ∧ -1074 ≤ e := by
  unfold magnitude at h
  dsimp only at h
  have hfraction : x.toBits.toNat % fractions < 2 ^ 52 := Nat.mod_lt _ (by decide)
  have hpower : fractions = 2 ^ 52 := by decide
  split_ifs at h with htop hzero hleast
  · cases h
    omega
  · cases h
    omega

end Conformance.Decimal
