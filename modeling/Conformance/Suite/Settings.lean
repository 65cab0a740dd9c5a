import Conformance.Check
import Conformance.Discovery

/-!
The settings of a suite and their defaults.
-/

namespace Conformance

/-- How a suite is reported. -/
inductive ReportFormat where
  | console
  | json
deriving DecidableEq, Repr

namespace Suite

/-- What is tested, with which scripts, how it is checked and how it is reported. -/
structure Settings where
  interpreter : Path
  root : Path := "test".toList
  filter : Filter := ⟨"qi".toList, "benchmark".toList⟩
  check : CheckOptions := {}
  format : ReportFormat := .console
deriving DecidableEq, Repr

end Suite

end Conformance
