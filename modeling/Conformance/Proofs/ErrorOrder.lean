import Mathlib.Data.List.Perm.Basic
import Conformance.Proofs.ErrorReport

/-!
What the order of standard error decides.  Only the choice of the pieces that are shown below the
cap depends on it: the number of discrepancies, the summary, the missing errors and the verdict do
not.  Empty pieces and repeated reports of a declared error change nothing wherever they stand, and
the verdict takes the declared errors as a set.
-/

namespace Conformance

/-- The number that the summary of further pieces gives. -/
def Discrepancy.truncated? : Discrepancy → Option Nat
  | .truncated count => some count
  | _ => none

def Discrepancy.missing? : Discrepancy → Option Text
  | .missingError label => some label
  | _ => none

namespace Check

variable {cap : Nat} {expected labels stderr stderr' : List Text}

/-- Two reports on standard error that differ at most in the unexpected pieces that they show: as
many discrepancies, the same summary, and the same missing errors in the same order. -/
structure SameErrors (found found' : List Discrepancy) : Prop where
  length : found.length = found'.length
  summary : found.filterMap Discrepancy.truncated? = found'.filterMap Discrepancy.truncated?
  missing : found.filterMap Discrepancy.missing? = found'.filterMap Discrepancy.missing?

/-- Two streams report the same of the declared compile errors. -/
def ReportSame (expected stderr stderr' : List Text) : Prop :=
  ∀ label ∈ expected, label ∈ stderr.filterMap diagnostic? ↔ label ∈ stderr'.filterMap diagnostic?

theorem missing_eq_of_reportSame (h : ReportSame expected stderr stderr') :
    missing expected stderr = missing expected stderr' := by
  apply List.filter_congr
  intro label hlabel
  rw [decide_eq_decide, h label hlabel]

/-- Only the unexpected pieces and the declared errors that are reported count. -/
theorem compileErrors_eq_of_unexpected_eq
    (hunexpected : unexpected expected stderr = unexpected expected stderr')
    (h : ReportSame expected stderr stderr') :
    compileErrors cap expected stderr = compileErrors cap expected stderr' := by
  rw [compileErrors_eq, compileErrors_eq, hunexpected, missing_eq_of_reportSame h]

theorem unexpected_perm (expected : List Text) (h : stderr.Perm stderr') :
    (unexpected expected stderr).Perm (unexpected expected stderr') :=
  h.filterMap _

theorem reportSame_of_perm (expected : List Text) (h : stderr.Perm stderr') :
    ReportSame expected stderr stderr' :=
  fun _ _ => (h.filterMap diagnostic?).mem_iff

theorem filterMap_unexpected_eq_nil {α : Type} {read : Discrepancy → Option α}
    (herror : ∀ piece, read (.unexpectedError piece) = none)
    (hstray : ∀ piece, read (.strayError piece) = none) {found : List Discrepancy}
    (h : found <+: unexpected expected stderr) : found.filterMap read = [] := by
  rw [List.filterMap_eq_nil_iff]
  intro d hd
  obtain ⟨piece, -, hpiece⟩ := List.mem_filterMap.1 (h.subset hd)
  rcases unexpected?_eq_some_iff.1 hpiece with ⟨label, -, -, rfl⟩ | ⟨-, -, rfl⟩
  · exact herror piece
  · exact hstray piece

/-- The summary tells how many unexpected pieces the cap leaves out, and is there only if it leaves
out one. -/
theorem filterMap_truncated?_compileErrors (cap : Nat) (expected stderr : List Text) :
    (compileErrors cap expected stderr).filterMap Discrepancy.truncated? =
      if (unexpected expected stderr).length ≤ cap then []
      else [(unexpected expected stderr).length - cap] := by
  have hmissing : ((missing expected stderr).map Discrepancy.missingError).filterMap
      Discrepancy.truncated? = [] := by
    simp [List.filterMap_eq_nil_iff, Discrepancy.truncated?]
  rw [compileErrors_eq, List.filterMap_append, List.filterMap_append, hmissing,
    filterMap_unexpected_eq_nil (fun _ => rfl) (fun _ => rfl) (List.take_prefix cap _)]
  split <;> rfl

theorem filterMap_missing?_compileErrors (cap : Nat) (expected stderr : List Text) :
    (compileErrors cap expected stderr).filterMap Discrepancy.missing? =
      missing expected stderr := by
  have hmissing : ((missing expected stderr).map Discrepancy.missingError).filterMap
      Discrepancy.missing? = missing expected stderr := by
    rw [List.filterMap_map]
    exact List.filterMap_some
  have hsummary : (if (unexpected expected stderr).length ≤ cap then []
      else [Discrepancy.truncated ((unexpected expected stderr).length - cap)]).filterMap
      Discrepancy.missing? = [] := by
    split <;> rfl
  rw [compileErrors_eq, List.filterMap_append, List.filterMap_append, hmissing, hsummary,
    filterMap_unexpected_eq_nil (fun _ => rfl) (fun _ => rfl) (List.take_prefix cap _)]
  rfl

theorem sameErrors_of_perm (cap : Nat) (expected : List Text) (h : stderr.Perm stderr') :
    SameErrors (compileErrors cap expected stderr) (compileErrors cap expected stderr') := by
  have hlength := (unexpected_perm expected h).length_eq
  have hmissing := missing_eq_of_reportSame (reportSame_of_perm expected h)
  refine ⟨?_, ?_, ?_⟩
  · simp only [compileErrors_eq, List.length_append, List.length_take, hlength, hmissing]
  · rw [filterMap_truncated?_compileErrors, filterMap_truncated?_compileErrors, hlength]
  · rw [filterMap_missing?_compileErrors, filterMap_missing?_compileErrors, hmissing]

/-- With room for all unexpected pieces the reports differ in nothing but order. -/
theorem compileErrors_perm (h : stderr.Perm stderr')
    (hroom : (unexpectedPieces expected stderr).length ≤ cap) :
    (compileErrors cap expected stderr).Perm (compileErrors cap expected stderr') := by
  have hperm := unexpected_perm expected h
  rw [← length_unexpected] at hroom
  have hroom' : (unexpected expected stderr').length ≤ cap := hperm.length_eq ▸ hroom
  rw [compileErrors_eq, compileErrors_eq, if_pos hroom, if_pos hroom',
    List.take_of_length_le hroom, List.take_of_length_le hroom',
    missing_eq_of_reportSame (reportSame_of_perm expected h)]
  exact (hperm.append_right []).append_right _

/-- The second list is the first one with further entries between its own, all of which have the
property. -/
inductive Inserts (P : Text → Prop) : List Text → List Text → Prop
  | nil : Inserts P [] []
  | keep {own more : List Text} (piece : Text) (h : Inserts P own more) :
      Inserts P (piece :: own) (piece :: more)
  | insert {own more : List Text} {piece : Text} (hpiece : P piece) (h : Inserts P own more) :
      Inserts P own (piece :: more)

/-- A reading that skips the further entries does not see them. -/
theorem Inserts.filterMap_eq {α : Type} {P : Text → Prop} {read : Text → Option α}
    (hread : ∀ piece, P piece → read piece = none) {own more : List Text}
    (h : Inserts P own more) : own.filterMap read = more.filterMap read := by
  induction h with
  | nil => rfl
  | keep piece _ ih => rw [List.filterMap_cons, List.filterMap_cons, ih]
  | insert hpiece _ ih => rw [List.filterMap_cons_none (hread _ hpiece), ih]

theorem Inserts.subset {P : Text → Prop} {own more : List Text} (h : Inserts P own more) :
    own ⊆ more := by
  induction h with
  | nil => exact List.Subset.refl []
  | keep piece _ ih => exact List.cons_subset_cons piece ih
  | insert _ _ ih => exact List.subset_cons_of_subset _ ih

theorem Inserts.mem_or {P : Text → Prop} {own more : List Text} (h : Inserts P own more) :
    ∀ piece ∈ more, piece ∈ own ∨ P piece := by
  induction h with
  | nil => simp
  | keep piece _ ih =>
      intro other hother
      rcases List.mem_cons.1 hother with rfl | hother
      · exact .inl List.mem_cons_self
      · exact (ih other hother).imp_left (List.mem_cons_of_mem piece)
  | insert hpiece _ ih =>
      intro other hother
      rcases List.mem_cons.1 hother with rfl | hother
      · exact .inr hpiece
      · exact ih other hother

/-- The piece is empty, or it reports a declared compile error that the stream reports anyway. -/
def Idle (expected stderr : List Text) (piece : Text) : Prop :=
  piece = [] ∨
    ∃ label ∈ expected, diagnostic? piece = some label ∧ label ∈ stderr.filterMap diagnostic?

theorem Idle.unexpected?_eq_none {piece : Text} (h : Idle expected stderr piece) :
    unexpected? expected piece = none := by
  rw [unexpected?_eq_none_iff]
  rcases h with rfl | ⟨label, hlabel, hread, -⟩
  · exact fun hne => absurd rfl hne
  · exact fun _ => ⟨label, hlabel, hread⟩

theorem reportSame_of_inserts (h : Inserts (Idle expected stderr) stderr stderr') :
    ReportSame expected stderr stderr' := by
  intro label _
  constructor
  · exact fun hmem => List.filterMap_subset diagnostic? h.subset hmem
  · intro hmem
    obtain ⟨piece, hpiece, hread⟩ := List.mem_filterMap.1 hmem
    rcases h.mem_or piece hpiece with hown | rfl | ⟨other, -, hother, hreported⟩
    · exact List.mem_filterMap.2 ⟨piece, hown, hread⟩
    · rw [diagnostic?_nil] at hread
      cases hread
    · rw [hother] at hread
      obtain rfl := Option.some.inj hread
      exact hreported

/-- Idle pieces change nothing wherever they stand. -/
theorem compileErrors_eq_of_inserts (h : Inserts (Idle expected stderr) stderr stderr') :
    compileErrors cap expected stderr = compileErrors cap expected stderr' :=
  compileErrors_eq_of_unexpected_eq (h.filterMap_eq fun _ hidle => hidle.unexpected?_eq_none)
    (reportSame_of_inserts h)

theorem ReportsErrors.congr (h : ∀ label, label ∈ expected ↔ label ∈ labels)
    (hreports : ReportsErrors expected stderr) : ReportsErrors labels stderr := by
  constructor
  · intro piece hpiece hne
    obtain ⟨label, hlabel, hread⟩ := hreports.declared piece hpiece hne
    exact ⟨label, (h label).1 hlabel, hread⟩
  · intro label hlabel
    exact hreports.reported label ((h label).2 hlabel)

/-- The verdict takes the declared compile errors as a set. -/
theorem compileErrors_eq_nil_congr (h : ∀ label, label ∈ expected ↔ label ∈ labels) :
    compileErrors cap expected stderr = [] ↔ compileErrors cap labels stderr = [] := by
  rw [compileErrors_eq_nil_iff, compileErrors_eq_nil_iff]
  exact ⟨.congr h, .congr fun label => (h label).symm⟩

theorem errors_of_no_runtimeError {e : Expectation} (h : e.runtimeError = none) (o : CheckOptions)
    (r : Run) : errors o e r = compileErrors o.cap e.compileErrors r.errorPieces := by
  rw [errors, h]

/-- The order of standard error decides only which of the unexpected pieces are shown, and not even
that when the cap leaves room for all of them.  Idle pieces decide nothing, and neither do the order
and the number of declarations for the verdict. -/
theorem errors_order_independent (o : CheckOptions) {e e' : Expectation}
    (hnone : e.runtimeError = none) (hnone' : e'.runtimeError = none)
    (hsame : e.compileErrors = e'.compileErrors) (r : Run) :
    (∀ r' : Run, r.errorPieces.Perm r'.errorPieces →
      SameErrors (errors o e r) (errors o e' r') ∧
        ((unexpectedPieces e.compileErrors r.errorPieces).length ≤ o.cap →
          (errors o e r).Perm (errors o e' r')) ∧
        (errors o e r = [] ↔ errors o e' r' = [])) ∧
      (∀ r' : Run, Inserts (Idle e.compileErrors r.errorPieces) r.errorPieces r'.errorPieces →
        errors o e r = errors o e' r') ∧
      ∀ labels, (∀ label, label ∈ e.compileErrors ↔ label ∈ labels) →
        (errors o e r = [] ↔ errors o { e' with compileErrors := labels } r = []) := by
  have herrors : ∀ r', errors o e' r' = compileErrors o.cap e.compileErrors r'.errorPieces := by
    intro r'
    rw [errors_of_no_runtimeError hnone', hsame]
  rw [errors_of_no_runtimeError hnone]
  refine ⟨?_, ?_, ?_⟩
  · intro r' hperm
    rw [herrors]
    have hsimilar := sameErrors_of_perm o.cap e.compileErrors hperm
    refine ⟨hsimilar, compileErrors_perm hperm, ?_⟩
    rw [← List.length_eq_zero_iff, hsimilar.length, List.length_eq_zero_iff]
  · intro r' hinserts
    rw [herrors]
    exact compileErrors_eq_of_inserts hinserts
  · intro labels hlabels
    rw [errors_of_no_runtimeError (e := { e' with compileErrors := labels }) hnone']
    exact compileErrors_eq_nil_congr hlabels

/-- Two compile errors, of which the runs below report the first. -/
def twoErrors : Expectation where
  compileErrors := ["[1] 错误a".toList, "[2] 错误b".toList]

/-- Two unexpected pieces around a declared error. -/
def noisyRun : Run where
  stderr := "x\n【行 1】错误a\ny".toList

/-- The pieces of `noisyRun` from the last to the first. -/
def turnedRun : Run where
  stderr := "y\n【行 1】错误a\nx".toList

/-- The pieces of `noisyRun` with an empty one and the report once more. -/
def paddedRun : Run where
  stderr := "x\n\n【行 1】错误a\ny\n【行 1】错误a".toList

/-- With room for one unexpected piece the turned run shows another one. -/
theorem errors_order_independent_noisy :
    twoErrors.runtimeError = none ∧ noisyRun.errorPieces.Perm turnedRun.errorPieces ∧
      errors { cap := 1 } twoErrors noisyRun ≠ errors { cap := 1 } twoErrors turnedRun ∧
      SameErrors (errors { cap := 1 } twoErrors noisyRun)
        (errors { cap := 1 } twoErrors turnedRun) ∧
      (errors {} twoErrors noisyRun).Perm (errors {} twoErrors turnedRun) ∧
      Inserts (Idle twoErrors.compileErrors noisyRun.errorPieces) noisyRun.errorPieces
        paddedRun.errorPieces ∧
      errors { cap := 1 } twoErrors noisyRun = errors { cap := 1 } twoErrors paddedRun ∧
      (errors { cap := 1 } twoErrors noisyRun = [] ↔
        errors { cap := 1 } { twoErrors with
          compileErrors := ["[2] 错误b".toList, "[1] 错误a".toList, "[2] 错误b".toList] }
          noisyRun = []) := by
  have hperm : noisyRun.errorPieces.Perm turnedRun.errorPieces := by decide +kernel
  have hnoisy : noisyRun.errorPieces = [['x'], "【行 1】错误a".toList, ['y']] := by decide +kernel
  have hpadded : paddedRun.errorPieces =
      [['x'], [], "【行 1】错误a".toList, ['y'], "【行 1】错误a".toList] := by decide +kernel
  have hidle : Idle twoErrors.compileErrors noisyRun.errorPieces "【行 1】错误a".toList :=
    .inr ⟨"[1] 错误a".toList, by decide +kernel⟩
  have hinserts : Inserts (Idle twoErrors.compileErrors noisyRun.errorPieces)
      noisyRun.errorPieces paddedRun.errorPieces := by
    rw [hpadded]
    rw [hnoisy] at hidle ⊢
    exact .keep _ (.insert (.inl rfl) (.keep _ (.keep _ (.insert hidle .nil))))
  have hlabels : ∀ first second label : Text,
      label ∈ [first, second] ↔ label ∈ [second, first, second] := by
    intro first second label
    simp only [List.mem_cons, List.not_mem_nil, or_false]
    exact ⟨fun h => .inr h, fun h => h.elim .inr id⟩
  have hone := errors_order_independent { cap := 1 } (e := twoErrors) rfl rfl rfl noisyRun
  have hroom := errors_order_independent {} (e := twoErrors) rfl rfl rfl noisyRun
  exact ⟨rfl, hperm, by decide +kernel, (hone.1 _ hperm).1,
    (hroom.1 _ hperm).2.1 (by decide +kernel), hinserts, hone.2.1 _ hinserts,
    hone.2.2 _ (hlabels _ _)⟩

end Check

end Conformance
