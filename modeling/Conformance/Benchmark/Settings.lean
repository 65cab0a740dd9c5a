import Conformance.Path

/-!
The settings of a benchmark and their defaults.
-/

namespace Conformance.Benchmark

/-- The interpreter that is measured when none is named. -/
def defaultInterpreter : Path := "src/cmake-build-release/qi".toList

/-- Which interpreters are measured on which script, and how often; without a count of trials the
benchmark has no end of its own. -/
structure Settings where
  interpreters : List Path := [defaultInterpreter]
  benchmark : Text
  root : Path := "test/benchmark".toList
  extension : Text := "qi".toList
  trials : Option UInt64 := none
deriving DecidableEq, Repr

namespace Settings

/-- The settings with other interpreters; an empty list changes nothing. -/
def withInterpreters (s : Settings) (interpreters : List Path) : Settings :=
  if interpreters = [] then s else { s with interpreters := interpreters }

def script (s : Settings) : Path :=
  Path.below s.root (s.benchmark ++ '.' :: s.extension)

def isComparison (s : Settings) : Bool :=
  s.interpreters.length > 1

end Settings

end Conformance.Benchmark
