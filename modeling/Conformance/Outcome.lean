import Conformance.Discrepancy
import Conformance.Script

/-!
What became of one script of a suite, and the running totals over all of them.
-/

namespace Conformance

/-- What became of a script. -/
inductive Outcome where
  | passed
  | failed (findings : List Finding)
  | skipped
  | invalid (c : Contradiction)
deriving DecidableEq, Repr

namespace Outcome

/-- The outcome of a run with these discrepancies: it passes if there are none. -/
def ofDiscrepancies : List Discrepancy → Outcome
  | [] => .passed
  | found => .failed (found.map Discrepancy.finding)

def status : Outcome → Text
  | .passed => "passed".toList
  | .failed _ => "failed".toList
  | .skipped => "skipped".toList
  | .invalid _ => "invalid".toList

end Outcome

/-- How many scripts had which outcome, and how many declarations the accepted ones made. -/
structure Tally where
  passed : Nat := 0
  failed : Nat := 0
  skipped : Nat := 0
  invalid : Nat := 0
  expectations : Nat := 0
deriving DecidableEq, Repr

namespace Tally

def record (t : Tally) : Outcome → Tally
  | .passed => { t with passed := t.passed + 1 }
  | .failed _ => { t with failed := t.failed + 1 }
  | .skipped => { t with skipped := t.skipped + 1 }
  | .invalid _ => { t with invalid := t.invalid + 1 }

/-- The totals with the declarations of one more accepted script. -/
def expect (t : Tally) (e : Expectation) : Tally :=
  { t with expectations := t.expectations + e.markers }

def allPassed (t : Tally) : Bool :=
  t.failed = 0

/-- The number of scripts that have an outcome. -/
def files (t : Tally) : Nat :=
  t.passed + t.failed + t.skipped + t.invalid

@[simp] theorem files_record (t : Tally) (o : Outcome) : (t.record o).files = t.files + 1 := by
  cases o <;> simp only [record, files] <;> omega

@[simp] theorem files_expect (t : Tally) (e : Expectation) : (t.expect e).files = t.files := rfl

end Tally

end Conformance
