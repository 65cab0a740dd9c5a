import Conformance.Text

/-!
The run of a script as an interpreter leaves it behind: the two output streams and the exit code.
-/

namespace Conformance

/-- What a run printed, what it reported, and how it ended. -/
structure Run where
  stdout : Text := []
  stderr : Text := []
  exitCode : Int := 0
deriving DecidableEq, Repr

namespace Run

def outputPieces (r : Run) : List Text := pieces '\n' r.stdout

def errorPieces (r : Run) : List Text := pieces '\n' r.stderr

/-- The pieces of the output without the empty one behind a final line feed. -/
def printed (r : Run) : List Text :=
  if r.outputPieces.getLast? = some [] then r.outputPieces.dropLast else r.outputPieces

end Run

end Conformance
