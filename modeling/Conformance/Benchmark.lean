import Conformance.Benchmark.BestTimes
import Conformance.Benchmark.Settings
import Conformance.Decimal.Fixed
import Conformance.Decimal.Reading
import Conformance.Interpreter
import Conformance.Sink
import Conformance.Text.Blank
import Conformance.Text.Quoted

/-!
Measuring interpreters.  A benchmark script prints the seconds it took on its last line.  In each
trial every interpreter runs the script once, in order; after a complete trial the best times so
far are written.  The number of the trial is a 64-bit word.
-/

namespace Conformance.Benchmark

/-- The time that a benchmark script reports: the number on its last line that is not blank. -/
def elapsed? (stdout : Text) : Option Float :=
  (Text.lastWords? stdout).bind Decimal.read?

inductive Failure where
  | launch (e : LaunchError)
  | exited (interpreter : Path) (exitCode : Int) (stderr : Text)
  | unreadable (interpreter : Path) (stdout : Text)
  | writing (cause : Text)
deriving DecidableEq, Repr

def Failure.message : Failure → Text
  | .launch e => e.message
  | .exited interpreter exitCode stderr =>
      '\'' :: interpreter ++ "' exited with code ".toList ++ Numeral.ofInt exitCode ++
        ":\n".toList ++ stderr
  | .unreadable interpreter stdout =>
      "could not read an elapsed time from the output of '".toList ++ interpreter ++
        "': ".toList ++ Text.quoted stdout
  | .writing cause => "failed to write results: ".toList ++ cause

/-- The state of a benchmark: best times, calls made, what was written, and the state of the
world. -/
structure Session (ω : Type) where
  best : BestTimes
  calls : List Call := []
  sink : Sink := {}
  world : ω

variable {ω : Type}

/-- A part of a benchmark; the state is kept when it fails. -/
abbrev Step (ω : Type) := EStateM Failure (Session ω)

def timeOf (interpreter : Path) (r : Run) : Except Failure Float :=
  if r.exitCode ≠ 0 then .error (.exited interpreter r.exitCode r.stderr)
  else
    match elapsed? r.stdout with
    | some time => .ok time
    | none => .error (.unreadable interpreter r.stdout)

/-- Runs the script once and gives the time that it reports. -/
def measure (run : Runner ω) (call : Call) : Step ω Float := fun s =>
  let after := fun (world : ω) => { s with calls := s.calls ++ [call], world := world }
  match run call s.world with
  | .error cause world => .error (.launch ⟨call.interpreter, cause⟩) (after world)
  | .ok r world =>
      match timeOf call.interpreter r with
      | .ok time => .ok time (after world)
      | .error e => .error e (after world)

/-- Keeps a time if it is the best of the interpreter at an index. -/
def keep (index : Nat) (time : Float) : Step ω Unit := fun s =>
  .ok () { s with best := s.best.record index time }

/-- Lets each interpreter run the script once; the indices start at the given one. -/
def measureAll (run : Runner ω) (script : Path) (index : Nat) : List Path → Step ω Unit
  | [] => pure ()
  | interpreter :: rest => do
      let time ← measure run ⟨interpreter, script⟩
      keep index time
      measureAll run script (index + 1) rest

def verdictText : Verdict → Text
  | .faster percent => Decimal.fixed 4 percent ++ "% faster".toList
  | .timeOfBest multiple => Decimal.fixed 4 multiple ++ "x time of best".toList

/-- A text with blanks before it up to a width. -/
def padLeft (width : Nat) (t : Text) : Text :=
  List.replicate (width - t.length) ' ' ++ t

def comparisonLine : Path × Float × Verdict → Text
  | (interpreter, time, verdict) =>
      "  ".toList ++ padLeft 30 interpreter ++ "  best ".toList ++ Decimal.fixed 4 time ++
        "s ".toList ++ verdictText verdict ++ ['\n']

def trialLines (settings : Settings) (trial : UInt64) (best : BestTimes) : List Text :=
  let heading := "trial #".toList ++ Numeral.ofNat trial.toNat
  if settings.isComparison then
    (heading ++ ['\n']) :: best.compare.map comparisonLine
  else
    match settings.interpreters with
    | [] => []
    | interpreter :: _ =>
        let time := (best.best? 0).getD BestTimes.unmeasured
        [heading ++ ' ' :: interpreter ++ "  best ".toList ++ Decimal.fixed 2 time ++
          "s\n".toList]

def report (settings : Settings) (trial : UInt64) : Step ω Unit := fun s =>
  match Sink.writeAll (trialLines settings trial s.best) s.sink with
  | .ok _ sink => .ok () { s with sink := sink }
  | .error cause sink => .error (.writing cause) { s with sink := sink }

def trial (settings : Settings) (run : Runner ω) (number : UInt64) : Step ω Unit := do
  measureAll run settings.script 0 settings.interpreters
  report settings number

/-- Does the limit allow the trial of this number? -/
def allowed (limit : Option UInt64) (number : UInt64) : Bool :=
  match limit with
  | none => true
  | some limit => number ≤ limit

/-- Trials from the one of a given number, at most `budget` of them; tells whether the limit came
first. -/
def trialsFrom (settings : Settings) (run : Runner ω) (number : UInt64) : Nat → Step ω Bool
  | 0 => pure false
  | budget + 1 =>
      if allowed settings.trials number then do
        trial settings run number
        trialsFrom settings run (number + 1) budget
      else pure true

/-- Runs a benchmark for at most `budget` trials. -/
def run (settings : Settings) (runner : Runner ω) (sink : Sink) (start : ω) (budget : Nat) :
    EStateM.Result Failure (Session ω) Bool :=
  trialsFrom settings runner 1 budget
    { best := BestTimes.start settings.interpreters, sink := sink, world := start }

end Conformance.Benchmark
