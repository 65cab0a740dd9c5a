import Conformance.Proofs.Verdict

/-!
The output check, line by line and character by character.  Every index at which the printed and the
declared lines differ gives one discrepancy, and the two extents disagree only on the declared lines
behind the last printed one.  The texts that pass are the lines with a line feed behind each, where
the last line feed may be left out behind a line that is not empty.
-/

namespace Conformance

namespace Check

/-- What is wrong with a line that is declared and printed like this, if anything is. -/
def difference? : Option ExpectedOutput → Option Text → Option Discrepancy
  | some e, some a => if e.text = a then none else some (.otherOutput e a)
  | none, some a => some (.surplusOutput a)
  | some e, none => some (.missingOutput e)
  | none, none => none

/-- How many lines are compared: all printed ones, and of the declared ones those that have to be
printed. -/
def compared (extent : OutputExtent) (expected : List ExpectedOutput) (actual : List Text) : Nat :=
  match extent with
  | .lenient => actual.length
  | .strict => max actual.length expected.length

/-- The discrepancies of the lines up to an index. -/
def differences (expected : List ExpectedOutput) (actual : List Text) (count : Nat) :
    List Discrepancy :=
  (List.range count).filterMap fun i => difference? expected[i]? actual[i]?

theorem differences_succ (expected : List ExpectedOutput) (actual : List Text) (count : Nat) :
    differences expected actual (count + 1) =
      (difference? expected.head? actual.head?).toList ++
        differences expected.tail actual.tail count := by
  have htail : ((List.range count).map Nat.succ).filterMap
      (fun i => difference? expected[i]? actual[i]?) =
        differences expected.tail actual.tail count := by
    simp only [differences, List.filterMap_map, List.getElem?_tail, Function.comp_def]
  rw [differences, List.range_succ_eq_map, List.filterMap_cons, htail, ← List.head?_eq_getElem?,
    ← List.head?_eq_getElem?]
  cases difference? expected.head? actual.head? <;> rfl

theorem differences_nil_left (actual : List Text) :
    differences [] actual actual.length = actual.map .surplusOutput := by
  induction actual with
  | nil => rfl
  | cons a actual ih =>
      rw [List.length_cons, differences_succ, List.map_cons, ← ih]
      rfl

theorem differences_nil_right (expected : List ExpectedOutput) :
    differences expected [] expected.length = expected.map .missingOutput := by
  induction expected with
  | nil => rfl
  | cons e expected ih =>
      rw [List.length_cons, differences_succ, List.map_cons, ← ih]
      rfl

theorem output_cons_cons (extent : OutputExtent) (e : ExpectedOutput)
    (expected : List ExpectedOutput) (a : Text) (actual : List Text) :
    output extent (e :: expected) (a :: actual) =
      (difference? (some e) (some a)).toList ++ output extent expected actual := by
  by_cases h : e.text = a <;> simp [output, difference?, h]

theorem compared_cons_cons (extent : OutputExtent) (e : ExpectedOutput)
    (expected : List ExpectedOutput) (a : Text) (actual : List Text) :
    compared extent (e :: expected) (a :: actual) = compared extent expected actual + 1 := by
  cases extent with
  | lenient => rfl
  | strict => exact Nat.succ_max_succ _ _

/-- The check finds exactly what is wrong with each of the compared lines, in their order. -/
theorem output_eq_differences (extent : OutputExtent) (expected : List ExpectedOutput)
    (actual : List Text) :
    output extent expected actual =
      differences expected actual (compared extent expected actual) := by
  induction expected generalizing actual with
  | nil =>
      have hcompared : compared extent [] actual = actual.length := by
        cases extent <;> simp [compared]
      rw [hcompared, differences_nil_left, output]
  | cons e expected ih =>
      cases actual with
      | nil =>
          cases extent with
          | lenient => rfl
          | strict => exact (differences_nil_right (e :: expected)).symm
      | cons a actual =>
          rw [output_cons_cons, compared_cons_cons, differences_succ, ih]
          rfl

/-- The strict check finds what the lenient one finds, and behind it each declared line that is not
printed. -/
theorem output_strict_eq (expected : List ExpectedOutput) (actual : List Text) :
    output .strict expected actual =
      output .lenient expected actual ++ (expected.drop actual.length).map .missingOutput := by
  induction expected generalizing actual with
  | nil => simp [output]
  | cons e expected ih =>
      cases actual with
      | nil => rfl
      | cons a actual =>
          rw [output_cons_cons, output_cons_cons, ih, List.append_assoc]
          rfl

/-- The finding on a line that is declared and printed like this, if anything is wrong. -/
def lineFinding? : Option ExpectedOutput → Option Text → Option Finding
  | some e, some a =>
      if e.text = a then none
      else some ⟨"Expected output ".toList ++ Discrepancy.quoted e.text ++ " on line ".toList ++
        Numeral.ofNat e.line ++ " and got ".toList ++ Discrepancy.quoted a ++ ".".toList, []⟩
  | none, some a =>
      some ⟨"Got output ".toList ++ Discrepancy.quoted a ++ " when none was expected.".toList, []⟩
  | some e, none =>
      some ⟨"Missing expected output ".toList ++ Discrepancy.quoted e.text ++ " on line ".toList ++
        Numeral.ofNat e.line ++ ".".toList, []⟩
  | none, none => none

theorem map_finding_difference? (e : Option ExpectedOutput) (a : Option Text) :
    (difference? e a).map Discrepancy.finding = lineFinding? e a := by
  cases e with
  | none => cases a <;> rfl
  | some e =>
      cases a with
      | none => rfl
      | some a =>
          by_cases h : e.text = a
          · rw [difference?, lineFinding?, if_pos h, if_pos h]
            rfl
          · rw [difference?, lineFinding?, if_neg h, if_neg h]
            rfl

/-- A line has a finding if it is not printed as it is declared. -/
theorem lineFinding?_isSome_iff (e : Option ExpectedOutput) (a : Option Text) :
    (lineFinding? e a).isSome ↔ e.map ExpectedOutput.text ≠ a := by
  cases e with
  | none => cases a <;> simp [lineFinding?]
  | some e =>
      cases a with
      | none => simp [lineFinding?]
      | some a => by_cases h : e.text = a <;> simp [lineFinding?, h]

theorem map_finding_output (extent : OutputExtent) (expected : List ExpectedOutput)
    (actual : List Text) :
    (output extent expected actual).map Discrepancy.finding =
      (List.range (compared extent expected actual)).filterMap fun i =>
        lineFinding? expected[i]? actual[i]? := by
  simp only [output_eq_differences, differences, List.map_filterMap, map_finding_difference?]

end Check

/-- The output check goes line by line: each index at which a declared and a printed line differ or
one of them is absent has one finding, in their order, and a run that may stop early is not held to
the lines behind its last one.  So the strict check is the lenient one and a finding for each
declared line that is not printed. -/
theorem check_compares_lines (o : CheckOptions) (e : Expectation) (r : Run) :
    (Check.output .strict e.output r.printed).map Discrepancy.finding =
        (List.range (max r.printed.length e.output.length)).filterMap
          (fun i => Check.lineFinding? e.output[i]? r.printed[i]?) ∧
      (Check.output .lenient e.output r.printed).map Discrepancy.finding =
        (List.range r.printed.length).filterMap
          (fun i => Check.lineFinding? e.output[i]? r.printed[i]?) ∧
      (∀ i : Nat, (Check.lineFinding? e.output[i]? r.printed[i]?).isSome ↔
        e.output[i]?.map ExpectedOutput.text ≠ r.printed[i]?) ∧
      check { o with extent := .strict } e r =
        check { o with extent := .lenient } e r ++
          (e.output.drop r.printed.length).map .missingOutput ∧
      (check { o with extent := .strict } e r).length =
        (check { o with extent := .lenient } e r).length +
          (e.output.length - r.printed.length) ∧
      (check { o with extent := .strict } e r = [] →
        check { o with extent := .lenient } e r = []) := by
  have hcheck : check { o with extent := .strict } e r =
      check { o with extent := .lenient } e r ++
        (e.output.drop r.printed.length).map .missingOutput := by
    have herrors : Check.errors { o with extent := .strict } e r =
        Check.errors { o with extent := .lenient } e r := rfl
    simp only [check, herrors, Check.output_strict_eq, List.append_assoc]
  refine ⟨Check.map_finding_output .strict e.output r.printed,
    Check.map_finding_output .lenient e.output r.printed,
    fun i => Check.lineFinding?_isSome_iff e.output[i]? r.printed[i]?, hcheck, ?_, ?_⟩
  · rw [hcheck, List.length_append, List.length_map, List.length_drop]
  · rw [hcheck, List.append_eq_nil_iff]
    exact And.left

/-- Standard output shows these lines and nothing else: there is a line feed behind each, which may
be left out behind a last line that is not empty. -/
def Shows (lines : List Text) (stdout : Text) : Prop :=
  stdout = Text.ofLines lines ∨
    ∃ last, lines.getLast? = some last ∧ last ≠ [] ∧ stdout = joinWith '\n' lines

/-- Lines that all end in a line feed are joined by line feeds with an empty line behind them. -/
theorem joinWith_concat_nil (lines : List Text) :
    joinWith '\n' (lines ++ [[]]) = Text.ofLines lines := by
  induction lines with
  | nil => rfl
  | cons line lines ih =>
      rw [List.cons_append, joinWith_cons '\n' line (List.concat_ne_nil [] lines), ih, ofLines_cons]

theorem joinWith_append_newline {lines : List Text} (h : lines ≠ []) :
    joinWith '\n' lines ++ ['\n'] = Text.ofLines lines := by
  induction lines with
  | nil => exact absurd rfl h
  | cons line lines ih =>
      rw [ofLines_cons]
      cases lines with
      | nil => rfl
      | cons next lines =>
          rw [← ih (by simp), joinWith_cons '\n' line (by simp), List.append_assoc,
            List.cons_append]

/-- The printed lines are the lines that standard output shows. -/
theorem printed_eq_iff_shows {r : Run} {lines : List Text} (h : ∀ line ∈ lines, '\n' ∉ line) :
    r.printed = lines ↔ Shows lines r.stdout := by
  constructor
  · rintro rfl
    have hstdout : joinWith '\n' r.outputPieces = r.stdout := joinWith_pieces '\n' r.stdout
    unfold Run.printed
    split
    · next hlast =>
        have hpieces : r.outputPieces.dropLast ++ [[]] = r.outputPieces :=
          List.dropLast_append_getLast? [] hlast
        left
        rw [← joinWith_concat_nil, hpieces, hstdout]
    · next hlast =>
        right
        have hne : r.outputPieces ≠ [] := pieces_ne_nil '\n' r.stdout
        refine ⟨_, List.getLast?_eq_some_getLast hne, ?_, hstdout.symm⟩
        intro hnil
        rw [List.getLast?_eq_some_getLast hne, hnil] at hlast
        exact hlast rfl
  · rintro (hstdout | ⟨last, hlast, hne, hstdout⟩)
    · exact printed_ofLines hstdout h
    · have hlines : lines ≠ [] := List.ne_nil_of_mem (List.mem_of_getLast? hlast)
      have hpieces : r.outputPieces = lines := by
        rw [Run.outputPieces, hstdout, pieces_joinWith hlines h]
      rw [Run.printed, hpieces, if_neg]
      rw [hlast, Option.some.injEq]
      exact hne

/-- No more than one line feed is missing at the end of what shows some lines. -/
theorem Shows.eq_or_append_newline_eq {lines : List Text} {stdout : Text}
    (h : Shows lines stdout) :
    stdout = Text.ofLines lines ∨ stdout ++ ['\n'] = Text.ofLines lines := by
  rcases h with rfl | ⟨last, hlast, -, rfl⟩
  · exact .inl rfl
  · exact .inr (joinWith_append_newline (List.ne_nil_of_mem (List.mem_of_getLast? hlast)))

/-- Without the line feed behind it an empty last line is not shown. -/
theorem not_shows_joinWith {lines : List Text} (hlast : lines.getLast? = some []) :
    ¬ Shows lines (joinWith '\n' lines) := by
  have hlines : lines ≠ [] := List.ne_nil_of_mem (List.mem_of_getLast? hlast)
  rintro (heq | ⟨last, hlast', hne, -⟩)
  · have hlength := congrArg List.length heq
    rw [← joinWith_append_newline hlines, List.length_append, List.length_singleton] at hlength
    omega
  · rw [hlast, Option.some.injEq] at hlast'
    exact hne hlast'.symm

theorem length_outputPieces_le (r : Run) : r.outputPieces.length ≤ r.printed.length + 1 := by
  unfold Run.printed
  split
  · rw [List.length_dropLast]
    omega
  · omega

/-- Only an empty piece is dropped from standard output. -/
theorem mem_printed {r : Run} {piece : Text} (hpiece : piece ∈ r.outputPieces) (hne : piece ≠ []) :
    piece ∈ r.printed := by
  unfold Run.printed
  split
  · next hlast =>
      rw [← List.dropLast_append_getLast? [] hlast, List.mem_append, List.mem_singleton] at hpiece
      exact hpiece.resolve_right hne
  · exact hpiece

theorem Check.Prints.isPrefix {extent : OutputExtent} {declared printed : List Text}
    (h : Check.Prints extent declared printed) : printed <+: declared := by
  cases extent with
  | lenient => exact h
  | strict => exact h ▸ List.prefix_rfl

/-- The texts of standard output that pass the check: under the strict one those that show the
declared lines, under the lenient one those that show the first of them.  A further line feed, an
empty last line without its line feed and a carriage return that is not declared never pass. -/
theorem output_accepts_iff_shows (expected : List ExpectedOutput) {lines : List Text}
    (hdeclared : expected.map ExpectedOutput.text = lines) (h : ∀ line ∈ lines, '\n' ∉ line)
    (r : Run) :
    (Check.output .strict expected r.printed = [] ↔ Shows lines r.stdout) ∧
      (Check.output .lenient expected r.printed = [] ↔
        ∃ front, front <+: lines ∧ Shows front r.stdout) ∧
      (Check.output .strict expected r.printed = [] →
        r.stdout = Text.ofLines lines ∨ r.stdout ++ ['\n'] = Text.ofLines lines) ∧
      (∀ extent rest, r.stdout = Text.ofLines lines ++ '\n' :: rest →
        Check.output extent expected r.printed ≠ []) ∧
      (lines.getLast? = some [] → r.stdout = joinWith '\n' lines →
        Check.output .strict expected r.printed ≠ []) ∧
      ∀ extent, Check.output extent expected r.printed = [] →
        ∀ piece ∈ r.outputPieces, '\r' ∈ piece → piece ∈ lines := by
  subst hdeclared
  have hstrict : Check.output .strict expected r.printed = [] ↔
      Shows (expected.map ExpectedOutput.text) r.stdout :=
    Check.output_eq_nil_iff.trans (printed_eq_iff_shows h)
  have hfirst : ∀ extent, Check.output extent expected r.printed = [] →
      r.printed <+: expected.map ExpectedOutput.text :=
    fun extent hnil => (Check.output_eq_nil_iff.1 hnil).isPrefix
  refine ⟨hstrict, ?_, fun hnil => (hstrict.1 hnil).eq_or_append_newline_eq, ?_, ?_, ?_⟩
  · rw [Check.output_eq_nil_iff]
    constructor
    · intro hfront
      exact ⟨r.printed, hfront,
        (printed_eq_iff_shows fun line hline => h line (hfront.subset hline)).1 rfl⟩
    · rintro ⟨front, hfront, hshows⟩
      rw [← printed_eq_iff_shows fun line hline => h line (hfront.subset hline)] at hshows
      exact hshows ▸ hfront
  · intro extent rest hstdout hnil
    have hlength := (hfirst extent hnil).length_le
    have hpieces : r.outputPieces =
        expected.map ExpectedOutput.text ++ [[]] ++ pieces '\n' rest := by
      rw [Run.outputPieces, hstdout, pieces_append_sep, pieces_ofLines h]
    have hrest := List.length_pos_iff.2 (pieces_ne_nil '\n' rest)
    have hprinted := length_outputPieces_le r
    rw [hpieces, List.length_append, List.length_append, List.length_singleton] at hprinted
    omega
  · intro hlast hstdout hnil
    rw [hstrict, hstdout] at hnil
    exact not_shows_joinWith hlast hnil
  · intro extent hnil piece hpiece hreturn
    exact (hfirst extent hnil).subset (mem_printed hpiece (List.ne_nil_of_mem hreturn))

def emptyLast : List ExpectedOutput :=
  [⟨1, ['a']⟩, ⟨3, []⟩]

/-- An empty last line has to be printed with its line feed, and no line feed more. -/
theorem output_accepts_iff_shows_emptyLast :
    emptyLast.map ExpectedOutput.text = [['a'], []] ∧ (∀ line ∈ [['a'], []], '\n' ∉ line) ∧
      Check.output .strict emptyLast { stdout := "a\n\n".toList : Run }.printed = [] ∧
      Check.output .strict emptyLast { stdout := "a\n".toList : Run }.printed ≠ [] ∧
      Check.output .lenient emptyLast { stdout := "a\n".toList : Run }.printed = [] ∧
      Check.output .lenient emptyLast { stdout := "a\n\n\n".toList : Run }.printed ≠ [] := by
  have hlines : ∀ line ∈ [['a'], []], '\n' ∉ line := by simp
  have haccepts := fun r => output_accepts_iff_shows emptyLast rfl hlines r
  exact ⟨rfl, hlines, (haccepts _).1.2 (.inl rfl), (haccepts _).2.2.2.2.1 rfl rfl,
    (haccepts _).2.1.2 ⟨[['a']], ⟨[[]], rfl⟩, .inl rfl⟩, (haccepts _).2.2.2.1 .lenient [] rfl⟩

end Conformance
