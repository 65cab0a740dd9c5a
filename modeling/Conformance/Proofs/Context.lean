import Conformance.Proofs.ErrorReport
import Conformance.Proofs.Output
import Conformance.Proofs.StackTrace

/-!
How many lines of context a finding carries.  The cap and one line more bound the context of every
finding but one: a run that shows no stack trace below its message has all the rest of standard
error as the context of that finding, however long it is.
-/

namespace Conformance

namespace Check

variable {f : Finding} {stderr : List Text}

/-- The finding on standard error without a stack trace below the message. -/
def noTraceFinding (later : List Text) : Finding :=
  ⟨"Expected stack trace and got:".toList, later⟩

theorem details_of_mem_errorFindings {cap : Nat} {expected : List Text}
    (h : f ∈ errorFindings cap expected stderr) : f.details.length ≤ 1 := by
  rw [errorFindings, List.mem_append, List.mem_append] at h
  rcases h with (hpiece | hsummary) | hmissing
  · obtain ⟨piece, -, rfl⟩ := List.mem_map.1 hpiece
    exact Nat.le_refl 1
  · split at hsummary
    · rw [List.mem_singleton.1 hsummary]
      exact Nat.zero_le 1
    · cases hsummary
  · obtain ⟨label, -, rfl⟩ := List.mem_map.1 hmissing
    exact Nat.zero_le 1

theorem details_of_mem_messageFindings {message first : Text}
    (h : f ∈ messageFindings message first) : f.details.length ≤ 1 := by
  unfold messageFindings at h
  split at h
  · cases h
  · rw [List.mem_singleton.1 h]
    exact Nat.le_refl 1

/-- The exit code comes with the first pieces of standard error and a line for all others. -/
theorem length_context_le (cap : Nat) (stderr : List Text) :
    (context cap stderr).length ≤ cap + 1 := by
  unfold context
  split
  · omega
  · rw [List.length_append, List.length_take, List.length_singleton]
    omega

theorem details_of_mem_exitCode {cap : Nat} {expected actual : Int}
    (h : f ∈ (exitCode cap expected actual stderr).map Discrepancy.finding) :
    f.details.length ≤ cap + 1 := by
  unfold exitCode at h
  split at h
  · cases h
  · rw [List.map_singleton, List.mem_singleton] at h
    rw [h]
    exact length_context_le cap stderr

theorem details_of_mem_output {extent : OutputExtent} {expected : List ExpectedOutput}
    {actual : List Text} (h : f ∈ (output extent expected actual).map Discrepancy.finding) :
    f.details = [] := by
  rw [map_finding_output] at h
  obtain ⟨i, -, hline⟩ := List.mem_filterMap.1 h
  unfold lineFinding? at hline
  split at hline
  · split at hline <;> cases hline
    rfl
  · cases hline
    rfl
  · cases hline
    rfl
  · cases hline

theorem TraceReport.eq_noTraceFinding {number : Nat} {later : List Text} {trace : List Finding}
    (h : TraceReport number later trace) (hf : f ∈ trace) (hlong : f.details ≠ []) :
    f = noTraceFinding later ∧ ∀ line ∈ later, ¬ HoldsEntry line := by
  cases h with
  | absent habsent => exact ⟨List.mem_singleton.1 hf, habsent⟩
  | elsewhere hfirst hdigits =>
      rw [List.mem_singleton.1 hf] at hlong
      exact absurd rfl hlong
  | there hfirst hdigits => cases hf

/-- Of the findings on a runtime error only the one on a missing stack trace carries more than a
line. -/
theorem eq_noTraceFinding_of_mem_runtimeError {expected : RuntimeError}
    (h : f ∈ (runtimeError expected stderr).map Discrepancy.finding)
    (hlong : 1 < f.details.length) :
    f = noTraceFinding stderr.tail ∧ ∀ line ∈ stderr.tail, ¬ HoldsEntry line := by
  have hone : ∀ found : Finding, found.details = [] → f ≠ found := by
    rintro found hnil rfl
    rw [hnil] at hlong
    exact absurd hlong (by simp)
  match stderr with
  | [] => exact absurd (List.mem_singleton.1 h) (hone _ rfl)
  | [_] => exact absurd (List.mem_singleton.1 h) (hone _ rfl)
  | first :: next :: later =>
      obtain ⟨trace, hfindings, hreport⟩ :=
        exists_traceReport expected first (List.cons_ne_nil next later)
      rw [hfindings] at h
      rcases List.mem_append.1 h with hmessage | htrace
      · exact absurd (details_of_mem_messageFindings hmessage) (Nat.not_le_of_lt hlong)
      · apply hreport.eq_noTraceFinding htrace
        intro hnil
        exact hone f hnil rfl

/-- Pieces below the message without a stack trace entry are all told. -/
theorem noTraceFinding_mem_runtimeError (expected : RuntimeError) (hlater : stderr.tail ≠ [])
    (habsent : ∀ line ∈ stderr.tail, ¬ HoldsEntry line) :
    noTraceFinding stderr.tail ∈ (runtimeError expected stderr).map Discrepancy.finding := by
  match stderr with
  | [] => exact absurd rfl hlater
  | first :: later =>
      rw [List.tail_cons] at hlater habsent ⊢
      obtain ⟨trace, hfindings, hreport⟩ := exists_traceReport expected first hlater
      rw [hfindings]
      apply List.mem_append_right
      cases hreport with
      | absent => exact List.mem_singleton_self _
      | elsewhere hfirst => exact absurd habsent hfirst.not_forall_not
      | there hfirst => exact absurd habsent hfirst.not_forall_not

end Check

open Check

/-- A finding goes beyond the cap and one line exactly if a runtime error is declared, no piece
below the first one holds a stack trace entry, and there are more of these pieces than that.  It is
then the finding on the missing stack trace, with all of them as its context. -/
theorem check_bounds_context_iff (o : CheckOptions) (e : Expectation) (r : Run) :
    (∀ f ∈ (check o e r).map Discrepancy.finding, o.cap + 1 < f.details.length →
        f = noTraceFinding r.errorPieces.tail) ∧
      ((∀ f ∈ (check o e r).map Discrepancy.finding, f.details.length ≤ o.cap + 1) ↔
        e.runtimeError = none ∨ (∃ piece ∈ r.errorPieces.tail, HoldsEntry piece) ∨
          r.errorPieces.tail.length ≤ o.cap + 1) := by
  have hlong : ∀ f ∈ (check o e r).map Discrepancy.finding, o.cap + 1 < f.details.length →
      f = noTraceFinding r.errorPieces.tail ∧ e.runtimeError ≠ none ∧
        ∀ piece ∈ r.errorPieces.tail, ¬ HoldsEntry piece := by
    intro f hf hlength
    rw [check, List.map_append, List.map_append, List.mem_append, List.mem_append] at hf
    rcases hf with (herrors | hexit) | houtput
    · unfold errors at herrors
      split at herrors
      · next expected hexpected =>
          obtain ⟨hfinding, habsent⟩ :=
            eq_noTraceFinding_of_mem_runtimeError herrors (by omega)
          exact ⟨hfinding, by simp [hexpected], habsent⟩
      · rw [map_finding_compileErrors] at herrors
        have hshort := details_of_mem_errorFindings herrors
        omega
    · have hshort := details_of_mem_exitCode hexit
      omega
    · rw [details_of_mem_output houtput] at hlength
      exact absurd hlength (by simp)
  refine ⟨fun f hf hlength => (hlong f hf hlength).1, ?_, ?_⟩
  · intro hbounded
    by_contra hnot
    push Not at hnot
    obtain ⟨hruntime, habsent, hlength⟩ := hnot
    obtain ⟨expected, hexpected⟩ := Option.ne_none_iff_exists'.1 hruntime
    have hlater : r.errorPieces.tail ≠ [] := List.length_pos_iff.1 (by omega)
    have hmem : noTraceFinding r.errorPieces.tail ∈ (check o e r).map Discrepancy.finding := by
      rw [check, List.map_append, List.map_append, errors, hexpected]
      apply List.mem_append_left
      apply List.mem_append_left
      exact noTraceFinding_mem_runtimeError expected hlater habsent
    exact absurd (hbounded _ hmem) (Nat.not_le_of_lt hlength)
  · intro hroom f hf
    by_contra hnot
    obtain ⟨rfl, hruntime, habsent⟩ := hlong f hf (Nat.lt_of_not_le hnot)
    rcases hroom with hnone | ⟨piece, hpiece, hentry⟩ | hlength
    · exact hruntime hnone
    · exact habsent piece hpiece hentry
    · exact hnot hlength

/-- A run that stops with twelve lines below its message and no stack trace. -/
def twelveBelow : Run where
  stderr := "boom\n1\n2\n3\n4\n5\n6\n7\n8\n9\n10\n11\n12".toList
  exitCode := 70

def boomScript : Text :=
  "f(); // expect runtime error: boom\n".toList

def boomExpectation : Expectation where
  runtimeError := some ⟨"boom".toList, 1⟩
  exitCode := runtimeExit
  markers := 1

theorem check_bounds_context_iff_twelve :
    (∃ f ∈ (check {} boomExpectation twelveBelow).map Discrepancy.finding, 11 < f.details.length) ∧
      ∀ f ∈ (check {} boomExpectation twelveBelow).map Discrepancy.finding,
        11 < f.details.length → f = noTraceFinding twelveBelow.errorPieces.tail := by
  refine ⟨by decide +kernel, ?_⟩
  exact (check_bounds_context_iff {} boomExpectation twelveBelow).1

/-- The cap does not bound the context of every finding. -/
theorem not_forall_context_bounded :
    Script.read boomScript = .accepted boomExpectation ∧
      ¬ ∀ (o : CheckOptions) (e : Expectation) (r : Run),
        ∀ f ∈ (check o e r).map Discrepancy.finding, f.details.length ≤ o.cap + 1 := by
  refine ⟨by decide +kernel, fun hbounded => ?_⟩
  have hshort := hbounded {} boomExpectation twelveBelow
  revert hshort
  decide +kernel

end Conformance
