import Conformance.Marker
import Conformance.Numeral

/-!
What a script declares about its run, built up marker by marker.  The exit code follows the last
error marker; a script that declares both compile errors and a runtime error contradicts itself.
-/

namespace Conformance

/-- A text that the run has to print, and the line that says so. -/
structure ExpectedOutput where
  line : Nat
  text : Text
deriving DecidableEq, Repr

/-- The message that the run has to stop with, and the line it has to stop on. -/
structure RuntimeError where
  message : Text
  line : Nat
deriving DecidableEq, Repr

def cleanExit : Int := 0

def compileExit : Int := 65

def runtimeExit : Int := 70

/-- What a script declares about its run; `markers` counts the declarations. -/
structure Expectation where
  output : List ExpectedOutput := []
  compileErrors : List Text := []
  runtimeError : Option RuntimeError := none
  exitCode : Int := cleanExit
  markers : Nat := 0
deriving DecidableEq, Repr

/-- One thing that is said about a run; the place of a compile error is any text. -/
inductive Declaration where
  | output (line : Nat) (text : Text)
  | compileError (line message : Text)
  | runtimeError (line : Nat) (message : Text)
deriving DecidableEq, Repr

namespace Expectation

def addOutput (e : Expectation) (line : Nat) (text : Text) : Expectation :=
  { e with output := e.output ++ [⟨line, text⟩], markers := e.markers + 1 }

def addCompileError (e : Expectation) (line message : Text) : Expectation :=
  { e with
    compileErrors := e.compileErrors ++ [label line message]
    exitCode := compileExit
    markers := e.markers + 1 }

/-- The run stops at a runtime error; only the last one declared is kept. -/
def setRuntimeError (e : Expectation) (line : Nat) (message : Text) : Expectation :=
  { e with
    runtimeError := some ⟨message, line⟩
    exitCode := runtimeExit
    markers := e.markers + 1 }

/-- Adds one declaration, and gives the runtime error that it replaces. -/
def record (e : Expectation) : Declaration → Option RuntimeError × Expectation
  | .output line text => (none, e.addOutput line text)
  | .compileError line message => (none, e.addCompileError line message)
  | .runtimeError line message => (e.runtimeError, e.setRuntimeError line message)

/-- Adds one declaration after another, and gives for each the runtime error that it replaces. -/
def recordAll (e : Expectation) : List Declaration → List (Option RuntimeError) × Expectation
  | [] => ([], e)
  | d :: ds =>
      let (replaced, e) := e.record d
      let (later, e) := e.recordAll ds
      (replaced :: later, e)

/-- Adds what the marker on a line declares; a script that is no test declares nothing. -/
def declare (e : Expectation) (line : Nat) : Marker → Expectation
  | .exclusion => e
  | .output text => e.addOutput line text
  | .compileError message => e.addCompileError (Numeral.ofNat line) message
  | .compileErrorAt named message => e.addCompileError named message
  | .runtimeError message => e.setRuntimeError line message

def contradictory (e : Expectation) : Bool :=
  e.compileErrors ≠ [] && e.runtimeError.isSome

end Expectation

end Conformance
