import Conformance.Proofs.Check

/-!
What a check reports of the compile errors on standard error.  Every piece that the script does not
account for is told of exactly once: by a finding of its own below the cap, and in the number of
the summary above it.  Behind them comes each declared error that no piece reports.
-/

namespace Conformance

/-- How many pieces of standard error that the script does not account for a discrepancy tells
of. -/
def Discrepancy.told : Discrepancy → Nat
  | .unexpectedError _ => 1
  | .strayError _ => 1
  | .truncated count => count
  | _ => 0

namespace Check

/-- The script does not account for the piece: it is a compile error that is not expected, or other
text. -/
def IsUnexpected (expected : List Text) (piece : Text) : Prop :=
  (∃ label, diagnostic? piece = some label ∧ label ∉ expected) ∨
    (diagnostic? piece = none ∧ piece ≠ [])

def pieceFinding (piece : Text) : Finding where
  message :=
    if (diagnostic? piece).isSome then "Unexpected error:".toList
    else "Unexpected output on stderr:".toList
  details := [piece]

theorem unexpected?_eq_some_iff {expected : List Text} {piece : Text} {found : Discrepancy} :
    unexpected? expected piece = some found ↔
      (∃ label, diagnostic? piece = some label ∧ label ∉ expected ∧
        found = .unexpectedError piece) ∨
      (diagnostic? piece = none ∧ piece ≠ [] ∧ found = .strayError piece) := by
  unfold unexpected?
  cases diagnostic? piece with
  | none => by_cases hnil : piece = [] <;> simp [hnil, eq_comm]
  | some label => by_cases hmem : label ∈ expected <;> simp [hmem, eq_comm]

theorem isUnexpected_iff {expected : List Text} {piece : Text} :
    IsUnexpected expected piece ↔ (unexpected? expected piece).isSome := by
  simp only [Option.isSome_iff_exists, unexpected?_eq_some_iff]
  constructor
  · rintro (⟨label, hread, hmem⟩ | ⟨hread, hne⟩)
    · exact ⟨_, .inl ⟨label, hread, hmem, rfl⟩⟩
    · exact ⟨_, .inr ⟨hread, hne, rfl⟩⟩
  · rintro ⟨found, ⟨label, hread, hmem, -⟩ | ⟨hread, hne, -⟩⟩
    · exact .inl ⟨label, hread, hmem⟩
    · exact .inr ⟨hread, hne⟩

instance (expected : List Text) (piece : Text) : Decidable (IsUnexpected expected piece) :=
  decidable_of_iff _ isUnexpected_iff.symm

def unexpectedPieces (expected stderr : List Text) : List Text :=
  stderr.filter fun piece => IsUnexpected expected piece

/-- The findings on standard error when no runtime error is declared: one for each unexpected piece
below the cap, one with the number of all others, and one for each declared error that is missing,
in declared order. -/
def errorFindings (cap : Nat) (expected stderr : List Text) : List Finding :=
  let unexpected := unexpectedPieces expected stderr
  (unexpected.take cap).map pieceFinding ++
    (if cap < unexpected.length then
      [⟨"(truncated ".toList ++ Numeral.ofNat (unexpected.length - cap) ++ " more...)".toList, []⟩]
    else []) ++
    (missing expected stderr).map fun label =>
      ⟨"Missing expected error: ".toList ++ label, []⟩

theorem finding_of_unexpected? {expected : List Text} {piece : Text} {found : Discrepancy}
    (h : unexpected? expected piece = some found) : found.finding = pieceFinding piece := by
  rcases unexpected?_eq_some_iff.1 h with ⟨label, hread, -, rfl⟩ | ⟨hread, -, rfl⟩
  · rw [pieceFinding, hread]
    rfl
  · rw [pieceFinding, hread]
    rfl

theorem told_of_unexpected? {expected : List Text} {piece : Text} {found : Discrepancy}
    (h : unexpected? expected piece = some found) : found.told = 1 := by
  rcases unexpected?_eq_some_iff.1 h with ⟨label, -, -, rfl⟩ | ⟨-, -, rfl⟩ <;> rfl

/-- The discrepancies of unexpected pieces, shown. -/
theorem map_finding_unexpected (expected stderr : List Text) :
    (unexpected expected stderr).map Discrepancy.finding =
      (unexpectedPieces expected stderr).map pieceFinding := by
  induction stderr with
  | nil => rfl
  | cons piece stderr ih =>
      cases hpiece : unexpected? expected piece with
      | none =>
          have hskip : ¬ IsUnexpected expected piece := by simp [isUnexpected_iff, hpiece]
          rw [unexpected, List.filterMap_cons_none hpiece, unexpectedPieces,
            List.filter_cons_of_neg (by simpa using hskip)]
          exact ih
      | some found =>
          have hkeep : IsUnexpected expected piece := by simp [isUnexpected_iff, hpiece]
          rw [unexpected, List.filterMap_cons_some hpiece, unexpectedPieces,
            List.filter_cons_of_pos (by simpa using hkeep), List.map_cons, List.map_cons,
            finding_of_unexpected? hpiece]
          exact congrArg _ ih

theorem length_unexpected (expected stderr : List Text) :
    (unexpected expected stderr).length = (unexpectedPieces expected stderr).length := by
  rw [← List.length_map Discrepancy.finding, map_finding_unexpected, List.length_map]

theorem map_finding_compileErrors (cap : Nat) (expected stderr : List Text) :
    (compileErrors cap expected stderr).map Discrepancy.finding =
      errorFindings cap expected stderr := by
  have hsummary : ∀ count, (Discrepancy.truncated count).finding =
      ⟨"(truncated ".toList ++ Numeral.ofNat count ++ " more...)".toList, []⟩ := fun _ => rfl
  rw [compileErrors_eq, errorFindings, List.map_append, List.map_append, List.map_take,
    map_finding_unexpected, length_unexpected, List.map_take, List.map_map]
  congr 2
  split
  · next hroom => rw [if_neg (Nat.not_lt_of_le hroom), List.map_nil]
  · next hfull => rw [if_pos (Nat.lt_of_not_le hfull), List.map_singleton, hsummary]

theorem sum_told_of_forall {found : List Discrepancy} {n : Nat} (h : ∀ d ∈ found, d.told = n) :
    (found.map Discrepancy.told).sum = found.length * n := by
  rw [List.map_congr_left h, List.map_const', List.sum_replicate_nat]

theorem sum_told_unexpected {expected stderr : List Text} {found : List Discrepancy}
    (h : found <+: unexpected expected stderr) :
    (found.map Discrepancy.told).sum = found.length := by
  have hone : ∀ d ∈ found, d.told = 1 := by
    intro d hd
    obtain ⟨piece, -, hpiece⟩ := List.mem_filterMap.1 (h.subset hd)
    exact told_of_unexpected? hpiece
  rw [sum_told_of_forall hone, Nat.mul_one]

/-- Below the cap each unexpected piece is told of by itself, and the summary tells of all
others. -/
theorem sum_told_compileErrors (cap : Nat) (expected stderr : List Text) :
    ((compileErrors cap expected stderr).map Discrepancy.told).sum =
      (unexpectedPieces expected stderr).length := by
  have hmissing : (((missing expected stderr).map Discrepancy.missingError).map
      Discrepancy.told).sum = 0 :=
    sum_told_of_forall (n := 0) (by simp [Discrepancy.told])
  rw [compileErrors_eq, List.map_append, List.map_append, List.sum_append, List.sum_append,
    hmissing, sum_told_unexpected (List.take_prefix ..), List.length_take, length_unexpected]
  split
  · simp only [List.map_nil, List.sum_nil]
    omega
  · simp only [List.map_cons, List.map_nil, List.sum_cons, List.sum_nil, Discrepancy.told]
    omega

theorem told_of_mem_exitCode {cap : Nat} {expected actual : Int} {stderr : List Text}
    {d : Discrepancy} (h : d ∈ exitCode cap expected actual stderr) : d.told = 0 := by
  unfold exitCode at h
  split at h
  · cases h
  · obtain rfl := List.mem_singleton.1 h
    rfl

theorem told_of_mem_output {extent : OutputExtent} {expected : List ExpectedOutput}
    {actual : List Text} {d : Discrepancy} (h : d ∈ output extent expected actual) :
    d.told = 0 := by
  induction expected generalizing actual with
  | nil =>
      obtain ⟨line, -, rfl⟩ := List.mem_map.1 h
      rfl
  | cons e expected ih =>
      cases actual with
      | nil =>
          cases extent with
          | lenient => cases h
          | strict =>
              obtain ⟨missed, -, rfl⟩ := List.mem_map.1 h
              rfl
      | cons a actual =>
          unfold output at h
          split at h
          · exact ih h
          · rcases List.mem_cons.1 h with rfl | h
            · rfl
            · exact ih h

end Check

/-- What a check finds when no runtime error is declared: the findings on standard error, and behind
them only what the exit code and the output come to.  All unexpected pieces are told of, and none is
told of twice. -/
theorem check_reports_compile_errors (o : CheckOptions) {e : Expectation}
    (h : e.runtimeError = none) (r : Run) :
    (check o e r).map Discrepancy.finding =
        Check.errorFindings o.cap e.compileErrors r.errorPieces ++
          (Check.exitCode o.cap e.exitCode r.exitCode r.errorPieces ++
            Check.output o.extent e.output r.printed).map Discrepancy.finding ∧
      ((check o e r).map Discrepancy.told).sum =
        (Check.unexpectedPieces e.compileErrors r.errorPieces).length := by
  have hcheck : check o e r = Check.compileErrors o.cap e.compileErrors r.errorPieces ++
      (Check.exitCode o.cap e.exitCode r.exitCode r.errorPieces ++
        Check.output o.extent e.output r.printed) := by
    rw [check, Check.errors, h, List.append_assoc]
  have hrest : ∀ d ∈ Check.exitCode o.cap e.exitCode r.exitCode r.errorPieces ++
      Check.output o.extent e.output r.printed, d.told = 0 := by
    intro d hd
    rcases List.mem_append.1 hd with hexit | houtput
    · exact Check.told_of_mem_exitCode hexit
    · exact Check.told_of_mem_output houtput
  constructor
  · rw [hcheck, List.map_append, Check.map_finding_compileErrors]
  · rw [hcheck, List.map_append, List.sum_append, Check.sum_told_compileErrors,
      Check.sum_told_of_forall hrest, Nat.mul_zero, Nat.add_zero]

/-- Four unexpected pieces of both kinds and room for two, an error that is met, and one that is
declared twice and missing. -/
theorem check_reports_compile_errors_two :
    ({ compileErrors := ["[1] 错误a".toList, "[2] 错误b".toList, "[2] 错误b".toList]
       exitCode := 65 } : Expectation).runtimeError = none ∧
      (check { cap := 2 }
        { compileErrors := ["[1] 错误a".toList, "[2] 错误b".toList, "[2] 错误b".toList]
          exitCode := 65 }
        { stderr := "x\n【行 1】错误a\n\n【行 3】错误c\ny\n【行 1】错误b".toList
          exitCode := 65 }).map Discrepancy.finding =
        [⟨"Unexpected output on stderr:".toList, [['x']]⟩,
          ⟨"Unexpected error:".toList, ["【行 3】错误c".toList]⟩,
          ⟨"(truncated 2 more...)".toList, []⟩,
          ⟨"Missing expected error: [2] 错误b".toList, []⟩,
          ⟨"Missing expected error: [2] 错误b".toList, []⟩] := by
  refine ⟨rfl, ?_⟩
  rw [(check_reports_compile_errors _ rfl _).1]
  decide +kernel

end Conformance
