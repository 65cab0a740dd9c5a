import Mathlib.Data.List.Forall2
import Conformance.Proofs.Check
import Conformance.Proofs.Script

/-!
When a run conforms.  The verdict of a check is exact for every expectation, and it depends on no
cap.  An accepted script can be met exactly when every compile error that it declares can be
reported, and then the canonical run meets it.
-/

namespace Conformance

/-- A run does what an expectation declares: it ends with the exit code, prints the lines and
reports the errors. -/
structure Conforms (extent : OutputExtent) (e : Expectation) (r : Run) : Prop where
  exit : r.exitCode = e.exitCode
  output : Check.Prints extent (e.output.map ExpectedOutput.text) r.printed
  errors : match e.runtimeError with
    | some expected => Check.ReportsRuntimeError expected r.errorPieces
    | none => Check.ReportsErrors e.compileErrors r.errorPieces

theorem check_eq_nil_iff {o : CheckOptions} {e : Expectation} {r : Run} :
    check o e r = [] ↔ Conforms o.extent e r := by
  rw [check, List.append_eq_nil_iff, List.append_eq_nil_iff, Check.exitCode_eq_nil_iff,
    Check.output_eq_nil_iff]
  have herrors : Check.errors o e r = [] ↔
      match e.runtimeError with
      | some expected => Check.ReportsRuntimeError expected r.errorPieces
      | none => Check.ReportsErrors e.compileErrors r.errorPieces := by
    unfold Check.errors
    cases e.runtimeError with
    | some expected => exact Check.runtimeError_eq_nil_iff
    | none => exact Check.compileErrors_eq_nil_iff
  rw [herrors]
  constructor
  · rintro ⟨⟨herrors, hexit⟩, houtput⟩
    exact ⟨hexit, houtput, herrors⟩
  · rintro ⟨hexit, houtput, herrors⟩
    exact ⟨⟨herrors, hexit⟩, houtput⟩

/-- The verdict is exact: nothing is found exactly if the run conforms, whatever the cap. -/
theorem check_eq_nil_iff_conforms (o : CheckOptions) (e : Expectation) (r : Run) :
    (check o e r = [] ↔ Conforms o.extent e r) ∧
      ∀ cap, check { o with cap := cap } e r = [] ↔ check o e r = [] := by
  refine ⟨check_eq_nil_iff, fun cap => ?_⟩
  rw [check_eq_nil_iff, check_eq_nil_iff]

/-- A text of lines that all end in a line feed. -/
def Text.ofLines (lines : List Text) : Text :=
  lines.flatMap fun line => line ++ ['\n']

theorem ofLines_cons (line : Text) (lines : List Text) :
    Text.ofLines (line :: lines) = line ++ '\n' :: Text.ofLines lines := by
  simp [Text.ofLines]

theorem pieces_ofLines {lines : List Text} (h : ∀ line ∈ lines, '\n' ∉ line) :
    pieces '\n' (Text.ofLines lines) = lines ++ [[]] := by
  induction lines with
  | nil => rfl
  | cons line lines ih =>
      rw [ofLines_cons, pieces_append_cons (h line List.mem_cons_self),
        ih fun other hother => h other (List.mem_cons_of_mem line hother)]
      rfl

theorem printed_ofLines {r : Run} {lines : List Text} (hstdout : r.stdout = Text.ofLines lines)
    (h : ∀ line ∈ lines, '\n' ∉ line) : r.printed = lines := by
  have hpieces : r.outputPieces = lines ++ [[]] := by
    rw [Run.outputPieces, hstdout, pieces_ofLines h]
  rw [Run.printed, hpieces, List.getLast?_concat, if_pos rfl, List.dropLast_concat]

def traceEntry (number : Nat) : Text :=
  "[line ".toList ++ (Numeral.ofNat number ++ [']'])

theorem traceEntry_eq (number : Nat) :
    traceEntry number = "[line ".toList ++ (Numeral.ofNat number ++ [']']) := rfl

theorem traceLine?_traceEntry (number : Nat) :
    traceLine? (traceEntry number) = some (Numeral.ofNat number) := by
  have hhere : traceHere? (traceEntry number) = some (Numeral.ofNat number) :=
    traceHere?_eq_some_iff.2 ⟨Numeral.isDigits_ofNat number, [], rfl⟩
  exact Text.firstAt_cons_of_some hhere

/-- The run that does what an expectation declares and nothing else, with the given lines to report
its compile errors. -/
def Expectation.canonicalRun (e : Expectation) (reports : List Text) : Run where
  stdout := Text.ofLines (e.output.map ExpectedOutput.text)
  stderr :=
    match e.runtimeError with
    | some expected =>
        expected.message ++ "\n[line ".toList ++ Numeral.ofNat expected.line ++ "]\n".toList
    | none => Text.ofLines reports
  exitCode := e.exitCode

/-- The line is one line of standard error, and it is read as the compile error. -/
def Reports (line label : Text) : Prop :=
  '\n' ∉ line ∧ diagnostic? line = some label

theorem exists_reports {labels : List Text} (h : ∀ label ∈ labels, Answerable label) :
    ∃ reports, List.Forall₂ Reports reports labels := by
  induction labels with
  | nil => exact ⟨[], .nil⟩
  | cons label labels ih =>
      obtain ⟨line, hline⟩ := h label List.mem_cons_self
      obtain ⟨reports, hreports⟩ := ih fun other hother => h other (List.mem_cons_of_mem _ hother)
      exact ⟨line :: reports, .cons hline hreports⟩

theorem exists_mem_of_forall₂ {α β : Type} {R : α → β → Prop} {xs : List α} {ys : List β}
    (h : List.Forall₂ R xs ys) : ∀ x ∈ xs, ∃ y ∈ ys, R x y := by
  induction h with
  | nil => simp
  | cons hhead _ ih =>
      intro x hx
      rcases List.mem_cons.1 hx with rfl | hx
      · exact ⟨_, List.mem_cons_self, hhead⟩
      · obtain ⟨y, hy, hrelated⟩ := ih x hx
        exact ⟨y, List.mem_cons_of_mem _ hy, hrelated⟩

theorem reportsErrors_ofLines {reports labels : List Text}
    (h : List.Forall₂ Reports reports labels) :
    Check.ReportsErrors labels (pieces '\n' (Text.ofLines reports)) := by
  have hlines : ∀ line ∈ reports, '\n' ∉ line := by
    intro line hline
    obtain ⟨label, -, hreports⟩ := exists_mem_of_forall₂ h line hline
    exact hreports.1
  rw [pieces_ofLines hlines]
  refine ⟨?_, ?_⟩
  · intro piece hpiece hne
    rcases List.mem_append.1 hpiece with hline | hlast
    · obtain ⟨label, hlabel, hreports⟩ := exists_mem_of_forall₂ h piece hline
      exact ⟨label, hlabel, hreports.2⟩
    · exact absurd (List.mem_singleton.1 hlast) hne
  · intro label hlabel
    obtain ⟨line, hline, hreports⟩ : ∃ line ∈ reports, Reports line label :=
      exists_mem_of_forall₂ h.flip label hlabel
    exact ⟨line, List.mem_append_left _ hline, hreports.2⟩

theorem reportsRuntimeError_ofLines {expected : RuntimeError} (h : '\n' ∉ expected.message) :
    Check.ReportsRuntimeError expected
      (pieces '\n' (Text.ofLines [expected.message, traceEntry expected.line])) := by
  have hentry : '\n' ∉ traceEntry expected.line := by
    have hnumber : '\n' ∉ Numeral.ofNat expected.line :=
      not_mem_of_isDigits (Numeral.isDigits_ofNat expected.line) (by decide)
    simp [traceEntry_eq, hnumber]
  have hlines : ∀ line ∈ [expected.message, traceEntry expected.line], '\n' ∉ line := by
    intro line hline
    rcases List.mem_pair.1 hline with rfl | rfl
    · exact h
    · exact hentry
  rw [pieces_ofLines hlines]
  exact ⟨by simp, rfl, [], traceEntry expected.line, [[]], _, rfl, by simp,
    traceLine?_traceEntry expected.line, Numeral.denotes_ofNat expected.line⟩

/-- The canonical run conforms if no line feed cuts a declared text. -/
theorem canonicalRun_conforms {e : Expectation} {reports : List Text}
    (houtput : ∀ o ∈ e.output, '\n' ∉ o.text)
    (hruntime : ∀ expected, e.runtimeError = some expected → '\n' ∉ expected.message)
    (hreports : List.Forall₂ Reports reports e.compileErrors) (extent : OutputExtent) :
    Conforms extent e (e.canonicalRun reports) := by
  refine ⟨rfl, ?_, ?_⟩
  · have hprinted : (e.canonicalRun reports).printed = e.output.map ExpectedOutput.text := by
      apply printed_ofLines rfl
      intro line hline
      obtain ⟨o, ho, rfl⟩ := List.mem_map.1 hline
      exact houtput o ho
    rw [hprinted]
    cases extent with
    | lenient => exact List.prefix_rfl
    | strict => rfl
  · rw [Run.errorPieces, Expectation.canonicalRun]
    cases hkept : e.runtimeError with
    | some expected =>
        have hstderr : expected.message ++ "\n[line ".toList ++ Numeral.ofNat expected.line ++
            "]\n".toList = Text.ofLines [expected.message, traceEntry expected.line] := by
          simp [Text.ofLines, traceEntry_eq]
        simp only
        rw [hstderr]
        exact reportsRuntimeError_ofLines (hruntime expected hkept)
    | none => exact reportsErrors_ofLines hreports

theorem answerable_of_conforms {extent : OutputExtent} {e : Expectation} {r : Run}
    (hfree : e.compileErrors = [] ∨ e.runtimeError = none) (h : Conforms extent e r) :
    ∀ label ∈ e.compileErrors, Answerable label := by
  intro label hlabel
  rcases hfree with hnil | hnone
  · rw [hnil] at hlabel
    cases hlabel
  · have herrors := h.errors
    rw [hnone] at herrors
    obtain ⟨piece, hpiece, hread⟩ := herrors.reported label hlabel
    exact ⟨piece, not_mem_of_mem_pieces hpiece, hread⟩

/-- An accepted script can be met exactly when every compile error that it declares can be
reported; the canonical run then meets it under every cap and for both extents. -/
theorem accepted_satisfiable_iff {source : Text} {e : Expectation}
    (h : Script.read source = .accepted e) :
    ((∃ r, ∀ o, check o e r = []) ↔ ∀ label ∈ e.compileErrors, Answerable label) ∧
      (∀ o, (∃ r, check o e r = []) ↔ ∀ label ∈ e.compileErrors, Answerable label) ∧
      ∀ reports, List.Forall₂ Reports reports e.compileErrors →
        ∀ o, check o e (e.canonicalRun reports) = [] := by
  obtain ⟨hcontradicts, rfl⟩ := Script.accepted_of_read h
  -- With a runtime error kept, no compile error is declared, so no declared error goes unchecked.
  have hfree : (Script.declared source).compileErrors = [] ∨
      (Script.declared source).runtimeError = none := by
    rw [Script.contradicts_iff] at hcontradicts
    by_contra hboth
    push Not at hboth
    exact hcontradicts ⟨hboth.1, fun hnil => hboth.2 (by simp [Script.declared, hnil])⟩
  have hmet : ∀ o r, check o (Script.declared source) r = [] →
      ∀ label ∈ (Script.declared source).compileErrors, Answerable label :=
    fun o r hcheck => answerable_of_conforms hfree (check_eq_nil_iff.1 hcheck)
  have hcanonical : ∀ reports, List.Forall₂ Reports reports (Script.declared source).compileErrors →
      ∀ o, check o (Script.declared source) ((Script.declared source).canonicalRun reports) = [] :=
    fun reports hreports o => check_eq_nil_iff.2 (canonicalRun_conforms
      (fun _ => Script.not_mem_output_declared)
      (fun _ => Script.not_mem_runtimeError_declared) hreports o.extent)
  have hexists : (∀ label ∈ (Script.declared source).compileErrors, Answerable label) →
      ∃ r, ∀ o, check o (Script.declared source) r = [] := by
    intro hanswerable
    obtain ⟨reports, hreports⟩ := exists_reports hanswerable
    exact ⟨_, hcanonical reports hreports⟩
  refine ⟨⟨?_, hexists⟩, fun o => ⟨?_, ?_⟩, hcanonical⟩
  · rintro ⟨r, hr⟩
    exact hmet {} r (hr {})
  · rintro ⟨r, hr⟩
    exact hmet o r hr
  · intro hanswerable
    obtain ⟨r, hr⟩ := hexists hanswerable
    exact ⟨r, hr o⟩

/-- A script that declares an empty printed line and two compile errors. -/
def mixedScript : Text :=
  "print; // expect:\n// 错误a\r\n//【行 09】错误b".toList

def mixedExpectation : Expectation where
  output := [⟨1, []⟩]
  compileErrors := ["[2] 错误a".toList, "[09] 错误b".toList]
  exitCode := compileExit
  markers := 3

theorem accepted_satisfiable_iff_mixed :
    Script.read mixedScript = .accepted mixedExpectation ∧
      ((∃ r, ∀ o, check o mixedExpectation r = []) ↔
        ∀ label ∈ mixedExpectation.compileErrors, Answerable label) ∧
      (∀ o, (∃ r, check o mixedExpectation r = []) ↔
        ∀ label ∈ mixedExpectation.compileErrors, Answerable label) ∧
      ∀ reports, List.Forall₂ Reports reports mixedExpectation.compileErrors →
        ∀ o, check o mixedExpectation (mixedExpectation.canonicalRun reports) = [] := by
  have hread : Script.read mixedScript = .accepted mixedExpectation := by decide +kernel
  exact ⟨hread, accepted_satisfiable_iff hread⟩

end Conformance
