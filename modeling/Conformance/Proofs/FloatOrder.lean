import Mathlib.Algebra.Order.Group.Int
import Mathlib.Data.Prod.Lex
import Mathlib.Order.Defs.LinearOrder

/-!
The order of floating-point numbers.  What is no number stands outside of it; every other value has
a rank in a linear order, which the two zeros share.  So the order is transitive, and a number that
is less than another one leaves every third number above the one or below the other.
-/

namespace Conformance.Decimal

open Float.Model

/-- Ranks of floating-point numbers: the kind of number decides, then its exponent, then its
mantissa. -/
abbrev Rank := ℤ ×ₗ ℤ ×ₗ ℤ

/-- The rank of an unpacked number; below zero the greater size comes first. -/
def unpackedRank? : UnpackedFloat → Option Rank
  | .notANumber => none
  | .infinity .negative => some (toLex (-2, toLex (0, 0)))
  | .finite .negative m e _ => some (toLex (-1, toLex (-e, -m)))
  | .zero _ => some (toLex (0, toLex (0, 0)))
  | .finite .positive m e _ => some (toLex (1, toLex (e, m)))
  | .infinity .positive => some (toLex (2, toLex (0, 0)))

def rank? (x : Float) : Option Rank :=
  unpackedRank? x.toModel.unpack

/-- Two numbers are compared by their kinds, and by more only if these are the same. -/
theorem unpacked_lt_iff (a b : UnpackedFloat) :
    a.lt b = true ↔ ∃ i j, unpackedRank? a = some i ∧ unpackedRank? b = some j ∧ i < j := by
  rcases a with (_ | _) | _ | _ | ⟨_ | _, m, e, hm⟩ <;>
    rcases b with (_ | _) | _ | _ | ⟨_ | _, n, f, hn⟩ <;>
    dsimp only [UnpackedFloat.lt, UnpackedFloat.compare, unpackedRank?] <;>
    simp [Prod.Lex.toLex_lt_toLex]
  case infinity.negative.infinity.positive => rfl
  case finite.negative.finite.negative =>
    rw [Ordering.then_eq_gt, compare_gt_iff_gt, compare_gt_iff_gt, compare_eq_iff_eq]
  case finite.positive.finite.positive =>
    rw [Ordering.then_eq_lt, compare_lt_iff_lt, compare_lt_iff_lt, compare_eq_iff_eq]

variable {x y z : Float}

theorem lt_iff_rank : x < y ↔ ∃ i j, rank? x = some i ∧ rank? y = some j ∧ i < j := by
  change decide (x.toModel.lt y.toModel = true) = true ↔ _
  rw [decide_eq_true_iff]
  exact unpacked_lt_iff _ _

theorem rank?_eq_none_iff : rank? x = none ↔ x.isNaN = true := by
  change unpackedRank? x.toModel.unpack = none ↔ x.toModel.unpack.isNaN = true
  rcases x.toModel.unpack with (_ | _) | _ | _ | ⟨_ | _, m, e, hm⟩
  case notANumber => exact iff_of_true rfl rfl
  all_goals exact iff_of_false (Option.some_ne_none _) Bool.false_ne_true

theorem exists_rank (h : x.isNaN = false) : ∃ i, rank? x = some i := by
  rw [← Option.ne_none_iff_exists', ne_eq, rank?_eq_none_iff, h]
  exact Bool.false_ne_true

theorem isNaN_of_lt (h : x < y) : x.isNaN = false ∧ y.isNaN = false := by
  obtain ⟨i, j, hi, hj, -⟩ := lt_iff_rank.1 h
  have hnumber : ∀ {u : Float} {k : Rank}, rank? u = some k → u.isNaN = false := by
    intro u k hk
    rw [← Bool.not_eq_true, ← rank?_eq_none_iff, hk]
    exact Option.some_ne_none k
  exact ⟨hnumber hi, hnumber hj⟩

theorem not_lt_self (x : Float) : ¬ x < x := by
  intro h
  obtain ⟨i, j, hi, hj, hlt⟩ := lt_iff_rank.1 h
  rw [hi] at hj
  cases hj
  exact lt_irrefl i hlt

theorem lt_of_lt_of_lt (hxy : x < y) (hyz : y < z) : x < z := by
  obtain ⟨i, j, hi, hj, hlt⟩ := lt_iff_rank.1 hxy
  obtain ⟨j', k, hj', hk, hlt'⟩ := lt_iff_rank.1 hyz
  rw [hj] at hj'
  cases hj'
  exact lt_iff_rank.2 ⟨i, k, hi, hk, lt_trans hlt hlt'⟩

/-- Every number stands above the lesser of two others or below the greater one. -/
theorem lt_or_lt_of_lt (hxy : x < y) (hz : z.isNaN = false) : x < z ∨ z < y := by
  obtain ⟨i, j, hi, hj, hlt⟩ := lt_iff_rank.1 hxy
  obtain ⟨k, hk⟩ := exists_rank hz
  rcases lt_or_ge i k with habove | hbelow
  · exact .inl (lt_iff_rank.2 ⟨i, k, hi, hk, habove⟩)
  · exact .inr (lt_iff_rank.2 ⟨k, j, hk, hj, lt_of_le_of_lt hbelow hlt⟩)

end Conformance.Decimal
