import Conformance.Proofs.Verdict

/-!
Findings are made of lines.  Scripts declare texts line by line and runs are checked piece by piece,
so no text that a finding quotes holds a line feed, whatever the script and its interpreter write.
-/

namespace Conformance

/-- No declared text runs over the end of a line. -/
structure Expectation.OnLines (e : Expectation) : Prop where
  output : ∀ o ∈ e.output, '\n' ∉ o.text
  compileErrors : ∀ label ∈ e.compileErrors, '\n' ∉ label
  runtimeError : ∀ expected, e.runtimeError = some expected → '\n' ∉ expected.message

theorem not_mem_label {line message : Text} (hline : Text.IsDigits line)
    (hmessage : '\n' ∉ message) : '\n' ∉ label line message := by
  have hnumber : '\n' ∉ line := not_mem_of_isDigits hline (by decide)
  simp [label, hnumber, hmessage]

theorem Script.not_mem_compileErrors_declared {source label : Text}
    (h : label ∈ (declared source).compileErrors) : '\n' ∉ label := by
  simp only [declared, declaredErrors, List.mem_filterMap] at h
  obtain ⟨marker, hmarker, hlabel⟩ := h
  obtain ⟨named, rest, hnamed, hrest, rfl⟩ :=
    Marker.exists_eq_label (wellFormed_of_mem_marked hmarker) hlabel
  exact not_mem_label hnamed (List.not_mem_append (by decide) hrest)

theorem Script.onLines_of_read {source : Text} {e : Expectation} (h : read source = .accepted e) :
    e.OnLines := by
  obtain ⟨-, rfl⟩ := accepted_of_read h
  exact ⟨fun _ => not_mem_output_declared, fun _ => not_mem_compileErrors_declared,
    fun _ => not_mem_runtimeError_declared⟩

theorem Numeral.not_mem_ofNat (n : Nat) : '\n' ∉ ofNat n :=
  not_mem_of_isDigits (isDigits_ofNat n) (by decide)

theorem Numeral.not_mem_ofInt (n : Int) : '\n' ∉ ofInt n := by
  cases n with
  | ofNat n => exact not_mem_ofNat n
  | negSucc n => simp [ofInt, not_mem_ofNat]

namespace Discrepancy

def quotes : Discrepancy → List Text
  | .unexpectedError piece => [piece]
  | .strayError piece => [piece]
  | .truncated _ => []
  | .missingError label => [label]
  | .noRuntimeError expected => [expected]
  | .otherRuntimeError expected actual => [expected, actual]
  | .noTrace actual => actual
  | .otherLine _ actual => [actual]
  | .otherExit _ _ context => context
  | .surplusOutput actual => [actual]
  | .otherOutput expected actual => [expected.text, actual]
  | .missingOutput expected => [expected.text]

/-- No text that the discrepancy quotes holds a line feed. -/
def OnLines (d : Discrepancy) : Prop :=
  ∀ t ∈ d.quotes, '\n' ∉ t

theorem not_mem_quoted {t : Text} (h : '\n' ∉ t) : '\n' ∉ quoted t := by
  simp [quoted, h]

/-- The wording of a discrepancy has no line feeds of its own. -/
theorem OnLines.message {d : Discrepancy} (h : d.OnLines) : '\n' ∉ d.message := by
  cases d with
  | unexpectedError piece => exact of_decide_eq_true rfl
  | strayError piece => exact of_decide_eq_true rfl
  | truncated count =>
      have hcount := Numeral.not_mem_ofNat count
      exact List.not_mem_append (List.not_mem_append (by decide) hcount) (by decide)
  | missingError label => exact List.not_mem_append (by decide) (h label List.mem_cons_self)
  | noRuntimeError expected =>
      have hexpected := not_mem_quoted (h expected List.mem_cons_self)
      exact List.not_mem_append (List.not_mem_append (by decide) hexpected) (by decide)
  | otherRuntimeError expected actual =>
      have hexpected := not_mem_quoted (h expected List.mem_cons_self)
      exact List.not_mem_append (List.not_mem_append (by decide) hexpected) (by decide)
  | noTrace actual => exact of_decide_eq_true rfl
  | otherLine expected actual =>
      have hexpected := Numeral.not_mem_ofNat expected
      have hactual := h actual List.mem_cons_self
      exact List.not_mem_append (List.not_mem_append (List.not_mem_append
        (List.not_mem_append (by decide) hexpected) (by decide)) hactual) (by decide)
  | otherExit expected actual context =>
      have hexpected := Numeral.not_mem_ofInt expected
      have hactual := Numeral.not_mem_ofInt actual
      exact List.not_mem_append (List.not_mem_append (List.not_mem_append
        (List.not_mem_append (by decide) hexpected) (by decide)) hactual) (by decide)
  | surplusOutput actual =>
      have hactual := not_mem_quoted (h actual List.mem_cons_self)
      exact List.not_mem_append (List.not_mem_append (by decide) hactual) (by decide)
  | otherOutput expected actual =>
      have hexpected := not_mem_quoted (h expected.text List.mem_cons_self)
      have hline := Numeral.not_mem_ofNat expected.line
      have hactual := not_mem_quoted (h actual (by simp [quotes]))
      exact List.not_mem_append (List.not_mem_append (List.not_mem_append (List.not_mem_append
        (List.not_mem_append (List.not_mem_append (by decide) hexpected) (by decide)) hline)
        (by decide)) hactual) (by decide)
  | missingOutput expected =>
      have hexpected := not_mem_quoted (h expected.text List.mem_cons_self)
      have hline := Numeral.not_mem_ofNat expected.line
      exact List.not_mem_append (List.not_mem_append (List.not_mem_append
        (List.not_mem_append (by decide) hexpected) (by decide)) hline) (by decide)

/-- What stands below the message is quoted. -/
theorem details_subset_quotes (d : Discrepancy) : d.details ⊆ d.quotes := by
  cases d <;> simp [details, quotes]

theorem OnLines.lines {d : Discrepancy} (h : d.OnLines) :
    ∀ line ∈ d.finding.lines, '\n' ∉ line := by
  intro line hline
  rcases List.mem_cons.1 hline with rfl | hdetail
  · exact h.message
  · exact h line (details_subset_quotes d hdetail)

end Discrepancy

namespace Check

open Discrepancy

variable {stderr : List Text}

/-- Pieces that were cut at line feeds hold none. -/
def Cut (stderr : List Text) : Prop :=
  ∀ piece ∈ stderr, '\n' ∉ piece

theorem isDigits_of_traceLine? {piece digits : Text} (h : traceLine? piece = some digits) :
    Text.IsDigits digits := by
  obtain ⟨-, ending, -, hread, -⟩ := Text.firstAt_eq_some_iff.1 h
  exact (traceHere?_eq_some_iff.1 hread).1

theorem onLines_runtimeError {expected : RuntimeError} (hexpected : '\n' ∉ expected.message)
    (hstderr : Cut stderr) : ∀ d ∈ runtimeError expected stderr, d.OnLines := by
  match stderr with
  | [] => simpa [runtimeError, OnLines, quotes] using hexpected
  | [_] => simpa [runtimeError, OnLines, quotes] using hexpected
  | first :: next :: trace =>
      intro d hd
      rw [runtimeError] at hd
      · rcases List.mem_append.1 hd with hd | hd
        · split at hd
          · cases hd
          · rw [List.mem_singleton.1 hd]
            simpa [OnLines, quotes] using ⟨hexpected, hstderr first List.mem_cons_self⟩
        · split at hd
          · rw [List.mem_singleton.1 hd]
            intro piece hpiece
            exact hstderr piece (List.mem_cons_of_mem first hpiece)
          · next digits hfound =>
              split at hd
              · cases hd
              · rw [List.mem_singleton.1 hd]
                obtain ⟨piece, -, hpiece⟩ := List.exists_of_findSome?_eq_some hfound
                have hdigits := not_mem_of_isDigits (c := '\n') (isDigits_of_traceLine? hpiece)
                  (by decide)
                simpa [OnLines, quotes] using hdigits
      · rintro ⟨⟩

theorem onLines_unexpected {expected : List Text} (hstderr : Cut stderr) :
    ∀ d ∈ unexpected expected stderr, d.OnLines := by
  intro d hd
  obtain ⟨piece, hpiece, hread⟩ := List.mem_filterMap.1 hd
  have hquoted : d.quotes = [piece] := by
    unfold unexpected? at hread
    split at hread
    · split at hread
      · cases hread
      · cases hread
        rfl
    · split at hread
      · cases hread
      · cases hread
        rfl
  intro t ht
  rw [hquoted, List.mem_singleton] at ht
  rw [ht]
  exact hstderr piece hpiece

theorem onLines_compileErrors {cap : Nat} {expected : List Text}
    (hexpected : ∀ label ∈ expected, '\n' ∉ label) (hstderr : Cut stderr) :
    ∀ d ∈ compileErrors cap expected stderr, d.OnLines := by
  intro d hd
  rw [compileErrors_eq, List.mem_append, List.mem_append] at hd
  rcases hd with (hd | hd) | hd
  · exact onLines_unexpected hstderr d (List.mem_of_mem_take hd)
  · split at hd
    · cases hd
    · rw [List.mem_singleton.1 hd]
      simp [OnLines, quotes]
  · obtain ⟨label, hlabel, rfl⟩ := List.mem_map.1 hd
    simpa [OnLines, quotes] using hexpected label (List.mem_filter.1 hlabel).1

theorem cut_context (cap : Nat) (hstderr : Cut stderr) : Cut (context cap stderr) := by
  unfold context
  split
  · exact hstderr
  · intro piece hpiece
    rcases List.mem_append.1 hpiece with hpiece | hpiece
    · exact hstderr piece (List.mem_of_mem_take hpiece)
    · rw [List.mem_singleton.1 hpiece]
      decide

theorem onLines_exitCode {cap : Nat} {expected actual : Int} (hstderr : Cut stderr) :
    ∀ d ∈ exitCode cap expected actual stderr, d.OnLines := by
  intro d hd
  unfold exitCode at hd
  split at hd
  · cases hd
  · rw [List.mem_singleton.1 hd]
    exact cut_context cap hstderr

theorem onLines_output {extent : OutputExtent} {expected : List ExpectedOutput}
    {actual : List Text} (hexpected : ∀ o ∈ expected, '\n' ∉ o.text) (hactual : Cut actual) :
    ∀ d ∈ output extent expected actual, d.OnLines := by
  induction expected generalizing actual with
  | nil =>
      intro d hd
      obtain ⟨piece, hpiece, rfl⟩ := List.mem_map.1 hd
      simpa [OnLines, quotes] using hactual piece hpiece
  | cons e expected ih =>
      cases actual with
      | nil =>
          cases extent with
          | lenient => simp [output]
          | strict =>
              intro d hd
              obtain ⟨o, ho, rfl⟩ := List.mem_map.1 hd
              simpa [OnLines, quotes] using hexpected o ho
      | cons a actual =>
          have hrest := ih (fun o ho => hexpected o (List.mem_cons_of_mem e ho))
            (fun piece hpiece => hactual piece (List.mem_cons_of_mem a hpiece))
          intro d hd
          rw [output] at hd
          split at hd
          · exact hrest d hd
          · rcases List.mem_cons.1 hd with rfl | hd
            · simpa [OnLines, quotes] using
                ⟨hexpected e List.mem_cons_self, hactual a List.mem_cons_self⟩
            · exact hrest d hd

theorem cut_errorPieces (r : Run) : Cut r.errorPieces :=
  fun _ hpiece => not_mem_of_mem_pieces hpiece

theorem cut_printed (r : Run) : Cut r.printed := by
  intro piece hpiece
  unfold Run.printed at hpiece
  split at hpiece
  · exact not_mem_of_mem_pieces (List.dropLast_subset _ hpiece)
  · exact not_mem_of_mem_pieces hpiece

end Check

/-- Whatever a run prints, nothing that is found quotes a line feed. -/
theorem onLines_of_mem_check {o : CheckOptions} {e : Expectation} (he : e.OnLines) {r : Run}
    {d : Discrepancy} (h : d ∈ check o e r) : d.OnLines := by
  rw [check, List.mem_append, List.mem_append] at h
  rcases h with (h | h) | h
  · unfold Check.errors at h
    split at h
    · next expected hruntime =>
        exact Check.onLines_runtimeError (he.runtimeError expected hruntime)
          (Check.cut_errorPieces r) d h
    · exact Check.onLines_compileErrors he.compileErrors (Check.cut_errorPieces r) d h
  · exact Check.onLines_exitCode (Check.cut_errorPieces r) d h
  · exact Check.onLines_output he.output (Check.cut_printed r) d h

/-- Each finding on an accepted script is shown losslessly: its text, cut at line feeds, is its
message and the lines of its context. -/
theorem findings_read_back {source : Text} {e : Expectation} (h : Script.read source = .accepted e)
    (o : CheckOptions) (r : Run) :
    ∀ f ∈ (check o e r).map Discrepancy.finding,
      '\n' ∉ f.message ∧ (∀ detail ∈ f.details, '\n' ∉ detail) ∧
        pieces '\n' f.text = f.message :: f.details := by
  intro f hf
  obtain ⟨d, hd, rfl⟩ := List.mem_map.1 hf
  have hlines := (onLines_of_mem_check (Script.onLines_of_read h) hd).lines
  refine ⟨hlines _ List.mem_cons_self, ?_, Finding.pieces_text hlines⟩
  intro detail hdetail
  exact hlines detail (List.mem_cons_of_mem _ hdetail)

/-- A run that stops with another message, prints another line and ends with another exit code. -/
def otherwiseRun : Run where
  stdout := "b\n".toList
  stderr := "bang\n\rx\n".toList
  exitCode := 1

/-- What a script with a printed line and a runtime error declares. -/
def stoppingExpectation : Expectation where
  output := [⟨1, ['a']⟩]
  runtimeError := some ⟨"boom".toList, 2⟩
  exitCode := runtimeExit
  markers := 2

theorem findings_read_back_otherwise :
    Script.read "print 1; // expect: a\nf(); // expect runtime error: boom".toList =
        .accepted stoppingExpectation ∧
      (check {} stoppingExpectation otherwiseRun).length = 4 ∧
      ∀ f ∈ (check {} stoppingExpectation otherwiseRun).map Discrepancy.finding,
        '\n' ∉ f.message ∧ (∀ detail ∈ f.details, '\n' ∉ detail) ∧
          pieces '\n' f.text = f.message :: f.details := by
  have hread : Script.read "print 1; // expect: a\nf(); // expect runtime error: boom".toList =
      .accepted stoppingExpectation := by
    decide +kernel
  exact ⟨hread, by decide +kernel, findings_read_back hread {} otherwiseRun⟩

end Conformance
