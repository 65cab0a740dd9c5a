import Conformance.Outcome
import Conformance.Path

/-!
The events of a suite run that a report can show, and what a reporter is.
-/

namespace Conformance

structure Duration where
  seconds : Nat := 0
  nanoseconds : Nat := 0
deriving DecidableEq, Repr

/-- What happens in a suite run. -/
inductive Event where
  /-- So many scripts were found. -/
  | suiteStart (files : Nat)
  /-- A script comes next; the totals are those before it. -/
  | fileStart (path : Path) (tally : Tally)
  /-- A script has an outcome; the totals hold it already. -/
  | fileComplete (path : Path) (outcome : Outcome) (tally : Tally)
  /-- All scripts have an outcome. -/
  | suiteComplete (tally : Tally) (elapsed : Duration)
deriving DecidableEq, Repr

/-- A reporter handles events one by one.  It can fail with a message, and keeps its state then. -/
abbrev Reporter (σ : Type) := Event → EStateM Text σ Unit

/-- A report says which texts are written for an event, one after the other. -/
abbrev Report := Event → List Text

end Conformance
