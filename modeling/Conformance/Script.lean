import Conformance.Expectation
import Conformance.Text.Line
import Conformance.Text.Utf8

/-!
Reading a script.  A script is a test with an expectation, no test, or a contradiction: it declares
compile errors and a runtime error at once.
-/

namespace Conformance

/-- Why a script that contradicts itself cannot be a test. -/
structure Contradiction where
  runtimeErrorLine : Nat
  compileErrors : List Text
deriving DecidableEq, Repr

namespace Contradiction

def message : Text := "Cannot expect both compile and runtime errors.".toList

def code : Text := "qitest::conflicting_expectations".toList

/-- What the author of the script can do. -/
def help : Text :=
  "split the compile-error and runtime-error cases into separate test files".toList

end Contradiction

namespace Script

inductive Reading where
  | accepted (e : Expectation)
  | excluded
  | contradictory (c : Contradiction)
deriving DecidableEq, Repr

/-- The expectation after more lines, or none as soon as a line says that the script is no test. -/
def declareLines (e : Expectation) : List (Text × Nat) → Option Expectation
  | [] => some e
  | (line, number) :: rest =>
      match Marker.read? line with
      | none => declareLines e rest
      | some .exclusion => none
      | some marker => declareLines (e.declare number marker) rest

/-- The verdict on a complete expectation. -/
def Reading.ofExpectation (e : Expectation) : Reading :=
  match e.compileErrors, e.runtimeError with
  | _ :: _, some runtime => .contradictory ⟨runtime.line, e.compileErrors⟩
  | _, _ => .accepted e

def read (source : Text) : Reading :=
  match declareLines {} (Text.numberedLines source) with
  | none => .excluded
  | some e => .ofExpectation e

/-- Reads the bytes of a script; bytes that are no text are replaced. -/
def ofBytes (bytes : List UInt8) : Reading :=
  read (Text.ofUtf8 bytes)

end Script

end Conformance
