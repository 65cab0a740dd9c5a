import Mathlib.Data.List.Induction
import Conformance.Check
import Conformance.Proofs.Diagnostic

/-!
What each check of a run comes to.  The pass over standard error keeps the first unexpected
pieces, counts the rest and remembers the declared compile errors that it met; from its closed
form follows when each check has nothing to report.
-/

namespace Conformance.Check

/-- The discrepancy of one piece of standard error, if the script does not declare it. -/
def unexpected? (expected : List Text) (piece : Text) : Option Discrepancy :=
  match diagnostic? piece with
  | some found => if found ∈ expected then none else some (.unexpectedError piece)
  | none => if piece = [] then none else some (.strayError piece)

/-- The discrepancies of all pieces of standard error, without a cap. -/
def unexpected (expected stderr : List Text) : List Discrepancy :=
  stderr.filterMap (unexpected? expected)

theorem unexpected?_eq_none_iff {expected : List Text} {piece : Text} :
    unexpected? expected piece = none ↔
      (piece ≠ [] → ∃ found ∈ expected, diagnostic? piece = some found) := by
  unfold unexpected?
  cases hdiag : diagnostic? piece with
  | some found =>
      have hne : piece ≠ [] := by
        rintro rfl
        rw [diagnostic?_nil] at hdiag
        cases hdiag
      by_cases hmem : found ∈ expected <;> simp [hmem, hne]
  | none =>
      by_cases hnil : piece = [] <;> simp [hnil]

/-- What a pass over some pieces has come to. -/
structure Scan.Covers (cap : Nat) (expected : List Text) (s : Scan) (pieces : List Text) :
    Prop where
  reported : s.reported = (unexpected expected pieces).take cap
  further : s.further = (unexpected expected pieces).length - cap
  met : ∀ label ∈ expected, label ∈ s.met ↔ ∃ piece ∈ pieces, diagnostic? piece = some label

theorem Scan.covers_nil (cap : Nat) (expected : List Text) :
    Scan.Covers cap expected {} [] where
  reported := by simp [unexpected]
  further := by simp [unexpected]
  met := by simp

/-- One more unexpected piece is kept below the cap and counted above it. -/
theorem Scan.Covers.note {cap : Nat} {expected pieces : List Text} {s : Scan} {piece : Text}
    {d : Discrepancy} (h : s.Covers cap expected pieces)
    (hpiece : unexpected? expected piece = some d)
    (hmet : ∀ label ∈ expected, diagnostic? piece ≠ some label) :
    (s.note cap d).Covers cap expected (pieces ++ [piece]) := by
  have happend : unexpected expected (pieces ++ [piece]) = unexpected expected pieces ++ [d] := by
    simp [unexpected, hpiece]
  have hlength : s.reported.length = min cap (unexpected expected pieces).length := by
    rw [h.reported, List.length_take]
  have hfurther := h.further
  refine ⟨?_, ?_, ?_⟩
  · rw [happend]
    unfold Scan.note
    split
    -- Below the cap nothing has been cut so far; at the cap the kept part is full.
    · rw [List.take_of_length_le (by simp; omega), h.reported,
        List.take_of_length_le (by omega)]
    · rw [List.take_append_of_le_length (by omega)]
      exact h.reported
  · rw [happend, List.length_append, List.length_singleton]
    unfold Scan.note
    split
    · simp only
      omega
    · simp only
      omega
  · intro label hlabel
    have hsame : (s.note cap d).met = s.met := by
      unfold Scan.note
      split <;> rfl
    rw [hsame, h.met label hlabel]
    simp [hmet label hlabel]

/-- An expected or empty piece leaves the report as it is. -/
theorem Scan.Covers.skip {cap : Nat} {expected pieces met : List Text} {s : Scan} {piece : Text}
    (h : s.Covers cap expected pieces) (hpiece : unexpected? expected piece = none)
    (hmet : ∀ label ∈ expected, label ∈ met ↔ label ∈ s.met ∨ diagnostic? piece = some label) :
    ({ s with met := met } : Scan).Covers cap expected (pieces ++ [piece]) := by
  have happend : unexpected expected (pieces ++ [piece]) = unexpected expected pieces := by
    simp [unexpected, hpiece]
  refine ⟨?_, ?_, ?_⟩
  · rw [happend]
    exact h.reported
  · rw [happend]
    exact h.further
  · intro label hlabel
    rw [hmet label hlabel, h.met label hlabel]
    simp [or_and_right, exists_or]

/-- A pass keeps its closed form over one more piece. -/
theorem Scan.Covers.piece {cap : Nat} {expected pieces : List Text} {s : Scan}
    (h : s.Covers cap expected pieces) (piece : Text) :
    (s.piece cap expected piece).Covers cap expected (pieces ++ [piece]) := by
  unfold Scan.piece
  cases hdiag : diagnostic? piece with
  | some found =>
      by_cases hmem : found ∈ expected
      · simp only [hmem, if_true]
        apply h.skip
        · simp [unexpected?, hdiag, hmem]
        · intro label _
          simp [hdiag, eq_comm]
      · simp only [hmem, if_false]
        apply h.note
        · simp [unexpected?, hdiag, hmem]
        · intro label hlabel heq
          rw [hdiag] at heq
          exact hmem (Option.some.inj heq ▸ hlabel)
  | none =>
      by_cases hnil : piece = []
      · simp only [hnil, if_true]
        apply h.skip
        · simp [unexpected?, diagnostic?_nil]
        · simp [diagnostic?_nil]
      · simp only [hnil, if_false]
        apply h.note
        · simp [unexpected?, hdiag, hnil]
        · simp [hdiag]

theorem Scan.covers_foldl (cap : Nat) (expected stderr : List Text) :
    (stderr.foldl (Scan.piece cap expected) {}).Covers cap expected stderr := by
  induction stderr using List.reverseRecOn with
  | nil => exact Scan.covers_nil cap expected
  | append_singleton pieces piece ih =>
      rw [List.foldl_append]
      exact ih.piece piece

/-- The declared compile errors that no piece of standard error reports, in declared order. -/
def missing (expected stderr : List Text) : List Text :=
  expected.filter fun label => label ∉ stderr.filterMap diagnostic?

/-- The compile-error check in closed form. -/
theorem compileErrors_eq (cap : Nat) (expected stderr : List Text) :
    compileErrors cap expected stderr =
      (unexpected expected stderr).take cap ++
        (if (unexpected expected stderr).length ≤ cap then []
          else [.truncated ((unexpected expected stderr).length - cap)]) ++
        (missing expected stderr).map .missingError := by
  have h := Scan.covers_foldl cap expected stderr
  have hmissing : (expected.filter fun label =>
      label ∉ (stderr.foldl (Scan.piece cap expected) {}).met) = missing expected stderr := by
    apply List.filter_congr
    intro label hlabel
    rw [decide_eq_decide, h.met label hlabel]
    simp
  simp only [compileErrors, h.reported, h.further, hmissing, Nat.sub_eq_zero_iff_le]

/-- Standard error reports the declared compile errors and nothing else. -/
structure ReportsErrors (expected stderr : List Text) : Prop where
  declared : ∀ piece ∈ stderr, piece ≠ [] → ∃ label ∈ expected, diagnostic? piece = some label
  reported : ∀ label ∈ expected, ∃ piece ∈ stderr, diagnostic? piece = some label

/-- No cap hides an unexpected piece: with room for none the summary tells of it. -/
theorem compileErrors_eq_nil_iff {cap : Nat} {expected stderr : List Text} :
    compileErrors cap expected stderr = [] ↔ ReportsErrors expected stderr := by
  have hunexpected : unexpected expected stderr = [] ↔
      ∀ piece ∈ stderr, piece ≠ [] → ∃ label ∈ expected, diagnostic? piece = some label := by
    simp only [unexpected, List.filterMap_eq_nil_iff, unexpected?_eq_none_iff]
  have hmissing : missing expected stderr = [] ↔
      ∀ label ∈ expected, ∃ piece ∈ stderr, diagnostic? piece = some label := by
    simp [missing, List.filter_eq_nil_iff]
  rw [compileErrors_eq, List.append_eq_nil_iff, List.append_eq_nil_iff, List.map_eq_nil_iff,
    hmissing]
  constructor
  · rintro ⟨⟨htake, hroom⟩, hreported⟩
    refine ⟨hunexpected.1 ?_, hreported⟩
    have hle : (unexpected expected stderr).length ≤ cap := by
      by_contra hnot
      rw [if_neg hnot] at hroom
      cases hroom
    rwa [List.take_of_length_le hle] at htake
  · rintro ⟨hdeclared, hreported⟩
    rw [hunexpected.2 hdeclared]
    exact ⟨⟨List.take_nil, rfl⟩, hreported⟩

/-- Standard error reports the declared runtime error: its message comes first, and the first
stack trace entry below it names its line. -/
structure ReportsRuntimeError (expected : RuntimeError) (stderr : List Text) : Prop where
  two_le_length : 2 ≤ stderr.length
  message : stderr.head? = some expected.message
  trace : ∃ before entry after digits, stderr.tail = before ++ entry :: after ∧
    (∀ piece ∈ before, traceLine? piece = none) ∧ traceLine? entry = some digits ∧
    Numeral.Denotes digits expected.line

theorem runtimeError_eq_nil_iff {expected : RuntimeError} {stderr : List Text} :
    runtimeError expected stderr = [] ↔ ReportsRuntimeError expected stderr := by
  match stderr with
  | [] =>
      refine ⟨fun h => ?_, fun h => ?_⟩
      · cases h
      · exact absurd h.two_le_length (by simp)
  | [_] =>
      refine ⟨fun h => ?_, fun h => ?_⟩
      · cases h
      · exact absurd h.two_le_length (by simp)
  | first :: next :: trace =>
      have hfound : (∃ digits, (next :: trace).findSome? traceLine? = some digits ∧
            Numeral.value? digits = some expected.line) ↔
          runtimeError expected (expected.message :: next :: trace) = [] := by
        cases hfind : (next :: trace).findSome? traceLine? with
        | none => simp [runtimeError, hfind]
        | some digits => simp [runtimeError, hfind]
      constructor
      · intro h
        have hfirst : first = expected.message := by
          by_contra hne
          simp [runtimeError, hne] at h
        rw [hfirst] at h
        obtain ⟨digits, hfind, hvalue⟩ := hfound.2 h
        obtain ⟨before, entry, after, hsplit, hentry, hbefore⟩ :=
          List.findSome?_eq_some_iff.1 hfind
        exact ⟨by simp, by simp [hfirst], before, entry, after, digits, hsplit, hbefore, hentry,
          Numeral.value?_eq_some_iff.1 hvalue⟩
      · rintro ⟨-, hmessage, before, entry, after, digits, hsplit, hbefore, hentry, hdenotes⟩
        rw [List.head?_cons, Option.some.injEq] at hmessage
        rw [hmessage]
        exact hfound.1 ⟨digits,
          List.findSome?_eq_some_iff.2 ⟨before, entry, after, hsplit, hentry, hbefore⟩,
          Numeral.value?_eq_some_iff.2 hdenotes⟩

/-- The printed lines against the declared ones: all of them, or the first ones if the run may
stop printing early. -/
def Prints : OutputExtent → List Text → List Text → Prop
  | .lenient, declared, printed => printed <+: declared
  | .strict, declared, printed => printed = declared

theorem output_eq_nil_iff {extent : OutputExtent} {expected : List ExpectedOutput}
    {actual : List Text} :
    output extent expected actual = [] ↔
      Prints extent (expected.map ExpectedOutput.text) actual := by
  induction expected generalizing actual with
  | nil => cases extent <;> simp [output, Prints]
  | cons e expected ih =>
      cases actual with
      | nil => cases extent <;> simp [output, Prints]
      | cons a actual =>
          by_cases heq : e.text = a
          · simp only [output, heq, if_true, ih]
            cases extent <;> simp [Prints, heq]
          · have hne : a ≠ e.text := Ne.symm heq
            cases extent <;> simp [output, Prints, heq, hne]

theorem exitCode_eq_nil_iff {cap : Nat} {expected actual : Int} {stderr : List Text} :
    exitCode cap expected actual stderr = [] ↔ actual = expected := by
  unfold exitCode
  split <;> simp_all [eq_comm]

end Conformance.Check
