import Conformance.Text

/-!
The lines of a script.  A line ends at a line feed, and a single carriage return right before the
line feed belongs to the line end.  The last line needs no line feed; it then keeps a carriage
return at its end.  Lines are numbered from one.
-/

namespace Conformance.Text

/-- A line without the carriage return at its end, if it has one. -/
def chomp (line : Text) : Text :=
  if line.getLast? = some '\r' then line.dropLast else line

/-- The lines among the pieces between line feeds: all but the last end at a line feed, and an
empty last piece is no line. -/
def linesOfPieces : List Text → List Text
  | [] => []
  | [last] => if last = [] then [] else [last]
  | line :: next :: rest => chomp line :: linesOfPieces (next :: rest)

def lines (t : Text) : List Text :=
  linesOfPieces (pieces '\n' t)

/-- The lines of a text with their numbers, counted from one. -/
def numberedLines (t : Text) : List (Text × Nat) :=
  (lines t).zipIdx 1

@[simp] theorem chomp_concat_return (line : Text) : chomp (line ++ ['\r']) = line := by
  simp [chomp]

@[simp] theorem lines_nil : lines [] = [] := rfl

end Conformance.Text
