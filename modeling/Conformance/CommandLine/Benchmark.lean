import Conformance.Benchmark.Settings
import Conformance.CommandLine.Grammar
import Conformance.Numeral

/-!
The command line of the benchmark runner.
-/

namespace Conformance.CommandLine

/-- The arguments of the benchmark runner as far as they are given. -/
structure BenchmarkArguments where
  names : List Text := []
  root : Option Path := none
  trials : Option UInt64 := none
deriving DecidableEq, Repr

namespace BenchmarkArguments

/-- Reads a count of trials, which fits into 64 bits and may have a plus sign. -/
def readTrials (t : Text) : Except UsageError UInt64 :=
  match Numeral.word? (if t.head? = some '+' then t.drop 1 else t) with
  | none => .error .malformedValue
  | some n => .ok n

def long (name : Text) : Option (Switch BenchmarkArguments) :=
  [("root".toList, Switch.value fun t (a : BenchmarkArguments) => do
      return { a with root := ← once a.root path t }),
    ("trials".toList, .value fun t a => do
      return { a with trials := ← once a.trials readTrials t }),
    ("help".toList, help), ("version".toList, version)].lookup name

def short (c : Char) : Option (Switch BenchmarkArguments) :=
  [('h', help), ('V', version)].lookup c

/-- The options of the benchmark runner; every other argument is a name. -/
def grammar : Grammar BenchmarkArguments where
  long := long
  short := short
  positional := some fun t a => .ok { a with names := a.names ++ [t] }

end BenchmarkArguments

/-- The settings for interpreters followed by a benchmark, none if there is not even a benchmark. -/
def benchmarkSettings? (names : List Text) (root : Path) (trials : Option UInt64) :
    Option Benchmark.Settings :=
  names.getLast?.map fun benchmark =>
    ({ benchmark := benchmark, root := root, trials := trials } :
      Benchmark.Settings).withInterpreters names.dropLast

def readBenchmark (args : List Text) : Except UsageError Benchmark.Settings := do
  let a ← BenchmarkArguments.grammar.read {} args
  match benchmarkSettings? a.names (a.root.getD "test/benchmark".toList) a.trials with
  | none => .error .missingArgument
  | some settings => return settings

end Conformance.CommandLine
