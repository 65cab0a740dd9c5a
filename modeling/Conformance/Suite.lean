import Conformance.Event
import Conformance.Interpreter
import Conformance.Suite.Settings

/-!
Running a suite.  The scripts run one after the other: each is read, run by the interpreter if it
is a test, and checked.  A script that cannot be read, an interpreter that does not start and a
report that cannot be written end the run.  A log keeps what was done, in order.
-/

namespace Conformance

structure ReadError where
  script : Path
  cause : FileError
deriving DecidableEq, Repr

def ReadError.message (e : ReadError) : Text :=
  "failed to read test file '".toList ++ e.script ++ "': ".toList ++ e.cause.message

/-- Reads the script at a path. -/
def Script.load (read : Path → Except FileError (List UInt8)) (script : Path) :
    Except ReadError Script.Reading :=
  match read script with
  | .ok bytes => .ok (ofBytes bytes)
  | .error cause => .error ⟨script, cause⟩

namespace Suite

inductive Failure where
  | discovery (e : DiscoveryError)
  | reading (e : ReadError)
  | launch (e : LaunchError)
  | report (cause : Text)
deriving DecidableEq, Repr

def Failure.message : Failure → Text
  | .discovery e => e.message
  | .reading e => e.message
  | .launch e => e.message
  | .report cause => "failed to write report: ".toList ++ cause

/-- What a suite works with: the scripts below a root, their bytes, and an interpreter, which may
change the state of the world. -/
structure World (ω : Type) where
  scripts : ω → Path → Except DiscoveryError (List Path)
  read : ω → Path → Except FileError (List UInt8)
  run : Runner ω

/-- One thing that the run of a suite has done. -/
inductive Act where
  /-- A script was opened. -/
  | opened (script : Path)
  /-- The interpreter was called, whether it started or not. -/
  | called (call : Call)
  /-- The reporter handled an event without failing. -/
  | reported (event : Event)
deriving DecidableEq, Repr

def Act.call? : Act → Option Call
  | .called call => some call
  | _ => none

def Act.event? : Act → Option Event
  | .reported event => some event
  | _ => none

/-- The state of a run: the totals, what was done so far, and the states of the reporter and of the
world. -/
structure Session (σ ω : Type) where
  tally : Tally := {}
  log : List Act := []
  reporter : σ
  world : ω

variable {σ ω : Type}

def Session.calls (s : Session σ ω) : List Call :=
  s.log.filterMap Act.call?

def Session.events (s : Session σ ω) : List Event :=
  s.log.filterMap Act.event?

/-- The state with one more act in its log. -/
def Session.did (s : Session σ ω) (act : Act) : Session σ ω :=
  { s with log := s.log ++ [act] }

/-- A part of a run; the state is kept when it fails. -/
abbrev Step (σ ω : Type) := EStateM Failure (Session σ ω)

def notify (reporter : Reporter σ) (event : Event) : Step σ ω Unit := fun s =>
  match reporter event s.reporter with
  | .ok _ state => .ok () ({ s with reporter := state }.did (.reported event))
  | .error cause state => .error (.report cause) { s with reporter := state }

def load (world : World ω) (script : Path) : Step σ ω Script.Reading := fun s =>
  match Script.load (world.read s.world) script with
  | .ok reading => .ok reading (s.did (.opened script))
  | .error e => .error (.reading e) (s.did (.opened script))

def execute (world : World ω) (call : Call) : Step σ ω Run := fun s =>
  match world.run call s.world with
  | .ok run after => .ok run ({ s with world := after }.did (.called call))
  | .error cause after =>
      .error (.launch ⟨call.interpreter, cause⟩) ({ s with world := after }.did (.called call))

/-- Adds the declarations of an accepted script to the totals. -/
def expect (e : Expectation) : Step σ ω Unit := fun s =>
  .ok () { s with tally := s.tally.expect e }

def record (o : Outcome) : Step σ ω Outcome := fun s =>
  .ok o { s with tally := s.tally.record o }

def tally : Step σ ω Tally := fun s =>
  .ok s.tally s

/-- The outcome of a script: what it declares is counted before it runs, its outcome after. -/
def runFile (settings : Settings) (world : World ω) (script : Path) : Step σ ω Outcome := do
  match ← load world script with
  | .excluded => record .skipped
  | .contradictory c => record (.invalid c)
  | .accepted e =>
      expect e
      let run ← execute world ⟨settings.interpreter, script⟩
      record (.ofDiscrepancies (Conformance.check settings.check e run))

/-- Runs scripts one after the other and reports each before and after. -/
def runFiles (settings : Settings) (world : World ω) (reporter : Reporter σ) :
    List Path → Step σ ω Unit
  | [] => pure ()
  | script :: rest => do
      notify reporter (.fileStart script (← tally))
      let outcome ← runFile settings world script
      notify reporter (.fileComplete script outcome (← tally))
      runFiles settings world reporter rest

def findScripts (settings : Settings) (world : World ω) : Step σ ω (List Path) := fun s =>
  match world.scripts s.world settings.root with
  | .ok scripts => .ok scripts s
  | .error e => .error (.discovery e) s

/-- Runs the whole suite, which takes the given time, and gives the totals. -/
def steps (settings : Settings) (world : World ω) (reporter : Reporter σ) (elapsed : Duration) :
    Step σ ω Tally := do
  let scripts ← findScripts settings world
  notify reporter (.suiteStart scripts.length)
  runFiles settings world reporter scripts
  notify reporter (.suiteComplete (← tally) elapsed)
  tally

/-- Runs the whole suite with a reporter and a world in their first states. -/
def run (settings : Settings) (world : World ω) (reporter : Reporter σ) (state : σ) (start : ω)
    (elapsed : Duration) : EStateM.Result Failure (Session σ ω) Tally :=
  steps settings world reporter elapsed { reporter := state, world := start }

/-- The world in which an interpreter is at hand and each state has a whole file tree. -/
def World.ofTree (settings : Settings) (tree : ω → FileTree) (run : Runner ω) : World ω where
  scripts := fun state => discover settings.filter (tree state)
  read := fun state => (tree state).read
  run := run

end Suite

end Conformance
