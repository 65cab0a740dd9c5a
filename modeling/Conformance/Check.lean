import Conformance.Diagnostic
import Conformance.Discrepancy
import Conformance.Run

/-!
Checking a run against the expectation of its script.  Errors are checked first, then the exit
code, then the output.  A run conforms when no discrepancy is found.
-/

namespace Conformance

/-- May a run print less than its script declares? -/
inductive OutputExtent where
  /-- The run may stop printing early. -/
  | lenient
  /-- The run has to print every declared line. -/
  | strict
deriving DecidableEq, Repr

/-- How a run is checked; `cap` bounds how many unexpected pieces of standard error are shown. -/
structure CheckOptions where
  cap : Nat := 10
  extent : OutputExtent := .lenient
deriving DecidableEq, Repr

namespace Check

/-- Checks standard error for a declared runtime error: its message is the first piece, and the
first later piece with a stack trace entry names its line. -/
def runtimeError (expected : RuntimeError) : List Text → List Discrepancy
  | [] => [.noRuntimeError expected.message]
  | [_] => [.noRuntimeError expected.message]
  | first :: trace =>
      (if first = expected.message then [] else [.otherRuntimeError expected.message first]) ++
        match trace.findSome? traceLine? with
        | none => [.noTrace trace]
        | some line =>
            if Numeral.value? line = some expected.line then []
            else [.otherLine expected.line line]

/-- What a pass over standard error has come to: the discrepancies to report, the number of
further ones, and the declared compile errors that were met. -/
structure Scan where
  reported : List Discrepancy := []
  further : Nat := 0
  met : List Text := []

/-- A discrepancy is reported while there is room below the cap, and counted after that. -/
def Scan.note (cap : Nat) (s : Scan) (d : Discrepancy) : Scan :=
  if s.reported.length < cap then { s with reported := s.reported ++ [d] }
  else { s with further := s.further + 1 }

def Scan.piece (cap : Nat) (expected : List Text) (s : Scan) (piece : Text) : Scan :=
  match diagnostic? piece with
  | some found =>
      if found ∈ expected then { s with met := s.met ++ [found] }
      else s.note cap (.unexpectedError piece)
  | none => if piece = [] then s else s.note cap (.strayError piece)

/-- Checks standard error for the declared compile errors, in any order. -/
def compileErrors (cap : Nat) (expected : List Text) (stderr : List Text) : List Discrepancy :=
  let s := stderr.foldl (Scan.piece cap expected) {}
  s.reported ++
    (if s.further = 0 then [] else [.truncated s.further]) ++
    (expected.filter (· ∉ s.met)).map .missingError

/-- The first pieces of standard error, and a last line if there are more. -/
def context (cap : Nat) (stderr : List Text) : List Text :=
  if stderr.length ≤ cap then stderr
  else stderr.take cap ++ ["(truncated...)".toList]

def exitCode (cap : Nat) (expected actual : Int) (stderr : List Text) : List Discrepancy :=
  if expected = actual then [] else [.otherExit expected actual (context cap stderr)]

/-- Checks the printed lines one by one against the declared ones. -/
def output (extent : OutputExtent) : List ExpectedOutput → List Text → List Discrepancy
  | [], actual => actual.map .surplusOutput
  | expected, [] =>
      match extent with
      | .lenient => []
      | .strict => expected.map .missingOutput
  | e :: expected, a :: actual =>
      if e.text = a then output extent expected actual
      else .otherOutput e a :: output extent expected actual

/-- Checks standard error for the errors that the script declares. -/
def errors (o : CheckOptions) (e : Expectation) (r : Run) : List Discrepancy :=
  match e.runtimeError with
  | some expected => runtimeError expected r.errorPieces
  | none => compileErrors o.cap e.compileErrors r.errorPieces

end Check

/-- All discrepancies between a run and the expectation of its script, in the order of reports. -/
def check (o : CheckOptions) (e : Expectation) (r : Run) : List Discrepancy :=
  Check.errors o e r ++
    Check.exitCode o.cap e.exitCode r.exitCode r.errorPieces ++
    Check.output o.extent e.output r.printed

end Conformance
