import Conformance.Text.Search
import Conformance.Text.DecimalDigit

/-!
What an interpreter writes about errors.  A compile error is a line with a place in lenticular
brackets and a message that starts with the error word; a runtime error is followed by a stack
trace whose lines name a source line in square brackets.  Line numbers are kept as written.
-/

namespace Conformance

/-- The word that every compile error message starts with. -/
def errorWord : Text := "错误".toList

/-- What stands before the line number of a place. -/
def lineWord : Text := "行 ".toList

/-- The label under which a compile error is expected and compared. -/
def label (line message : Text) : Text :=
  '[' :: line ++ ']' :: ' ' :: message

/-- Reads a line number, the end of its place and the error word; gives the number as written and
what follows the error word. -/
def place? (t : Text) : Option (Text × Text) := do
  let t ← Text.after? lineWord t
  let (line, t) ← Text.digits? t
  let t ← Text.after? ('】' :: errorWord) t
  return (line, t)

/-- The label of a compile error whose place starts here and whose message holds more than the
error word. -/
def labelHere? (t : Text) : Option Text := do
  let (line, message) ← place? t
  if message = [] then none else return label line (errorWord ++ message)

/-- The label of the compile error on a line without line feeds: of the places after the first
bracket, the rightmost counts. -/
def lineDiagnostic? (line : Text) : Option Text := do
  let t ← Text.afterFirst? ['【'] line
  Text.lastAt labelHere? t

/-- The label of the compile error that a text from standard error reports.  A compile error never
runs over the end of a line. -/
def diagnostic? (t : Text) : Option Text :=
  (pieces '\n' t).findSome? lineDiagnostic?

/-- The line number of a stack trace entry that starts here. -/
def traceHere? (t : Text) : Option Text := do
  let t ← Text.after? "[line ".toList t
  let (line, t) ← Text.digits? t
  let _ ← Text.after? [']'] t
  return line

/-- The line number, as written, of the leftmost stack trace entry. -/
def traceLine? (t : Text) : Option Text :=
  Text.firstAt traceHere? t

end Conformance
