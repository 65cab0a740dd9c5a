import Conformance.Benchmark
import Conformance.CommandLine.Benchmark
import Conformance.CommandLine.Suite
import Conformance.Report.Console
import Conformance.Report.JsonLines
import Conformance.Suite

/-!
The two programs: arguments, a world and a way to run interpreters in it go in, an exit code and two
streams come out.  Error messages go to the error stream; a wrong command line ends a program with
exit code two.
-/

namespace Conformance.Program

structure Ending where
  exitCode : Int := 0
  stdout : List UInt8 := []
  stderr : List UInt8 := []
deriving DecidableEq, Repr

/-- An error that ends a program: a message, which may be empty, and the exit code. -/
structure Abort where
  message : Text
  exitCode : Int := 1
deriving DecidableEq, Repr

def Abort.ofMessage (t : Text) : Abort :=
  { message := "Error: ".toList ++ t }

/-- The ending after output and maybe an error; an empty message is not shown. -/
def Ending.of (stdout : List UInt8) : Except Abort Unit → Ending
  | .ok () => { stdout := stdout }
  | .error a =>
      { exitCode := a.exitCode
        stdout := stdout
        stderr := if a.message = [] then [] else Text.toUtf8 (a.message ++ ['\n']) }

def suiteUsage : Text :=
  "Usage: qitest [OPTIONS] --interpreter <PATH>\n".toList

def benchmarkUsage : Text :=
  "Usage: qitest-bench [interpreters...] <benchmark>".toList

/-- The ending for a command line that is not taken. -/
def refuse (name usage : Text) (e : CommandLine.UsageError) : Ending :=
  match e with
  | .helpRequested => { stdout := Text.toUtf8 (usage ++ ['\n']) }
  | .versionRequested =>
      { stdout := Text.toUtf8 (name ++ ' ' :: Report.version ++ ['\n']) }
  | e => { exitCode := e.exitCode, stderr := Text.toUtf8 (usage ++ ['\n']) }

/-- The report of a suite in its format; on a terminal it is coloured and shows progress. -/
def reportOf : ReportFormat → Report
  | .console => Report.Console.report { color := true, progress := true }
  | .json => Report.JsonLines.report

/-- Whether a suite succeeds: an early end is an error, and failed scripts are one without a
message, because the report has named them. -/
def suiteVerdict : Except Suite.Failure Tally → Except Abort Unit
  | .error e => .error (.ofMessage e.message)
  | .ok tally => if tally.allPassed then .ok () else .error { message := [] }

/-- Runs a suite in a world, with its report going to a sink. -/
def runSuiteIn {ω : Type} (settings : Suite.Settings) (world : Suite.World ω) (out : Sink)
    (start : ω) (elapsed : Duration) : Ending :=
  match Suite.run settings world (reportOf settings.format).reporter out start elapsed with
  | .ok tally s => .of s.reporter.bytes (suiteVerdict (.ok tally))
  | .error e s => .of s.reporter.bytes (suiteVerdict (.error e))

def runSuite (settings : Suite.Settings) (runner : Runner FileTree) (root : FileTree)
    (elapsed : Duration) : Ending :=
  runSuiteIn settings (Suite.World.ofTree settings id runner) {} root elapsed

def suite (args : List Text) (runner : Runner FileTree) (root : FileTree) (elapsed : Duration) :
    Ending :=
  match CommandLine.readSuite args with
  | .error e => refuse "qitest".toList suiteUsage e
  | .ok settings => runSuite settings runner root elapsed

variable {ω : Type}

/-- Runs a benchmark for at most `budget` trials.  There is no ending if it goes on after them. -/
def runBenchmark (settings : Benchmark.Settings) (runner : Runner ω) (start : ω) (budget : Nat) :
    Option Ending :=
  match Benchmark.run settings runner {} start budget with
  | .ok true s => some (.of s.sink.bytes (.ok ()))
  | .ok false _ => none
  | .error e s => some (.of s.sink.bytes (.error (.ofMessage e.message)))

/-- The benchmark runner, for at most `budget` trials. -/
def benchmark (args : List Text) (runner : Runner ω) (start : ω) (budget : Nat) : Option Ending :=
  match CommandLine.readBenchmark args with
  | .error e => some (refuse "qitest-bench".toList benchmarkUsage e)
  | .ok settings => runBenchmark settings runner start budget

end Conformance.Program
