import Conformance.Diagnostic

/-!
Markers: comments in which a script says what its run has to show.  Five rules read markers; on a
line that several rules accept, the first rule in the table decides.
-/

namespace Conformance

/-- What the marker on a line says. -/
inductive Marker where
  /-- The script is no test. -/
  | exclusion
  /-- The run prints this text. -/
  | output (text : Text)
  /-- This line does not compile. -/
  | compileError (message : Text)
  /-- The named line does not compile. -/
  | compileErrorAt (line message : Text)
  /-- The run stops on this line with this message. -/
  | runtimeError (message : Text)
deriving DecidableEq, Repr

namespace Marker

inductive Rule where
  | exclusion
  | output
  | compileError
  | compileErrorAt
  | runtimeError
deriving DecidableEq, Repr

/-- A text without the space that it starts with, if it does. -/
def dropSpace : Text → Text
  | ' ' :: t => t
  | t => t

/-- Reads the place of a compile error that names its line, and the message after it. -/
def compileErrorHere? (t : Text) : Option Marker := do
  let t ← Text.after? "//【".toList t
  let (line, message) ← place? t
  return .compileErrorAt line (errorWord ++ Text.restOfLine message)

/-- Reads a runtime error that starts here; its message may not be empty. -/
def runtimeErrorHere? (t : Text) : Option Marker := do
  let t ← Text.after? "// expect runtime error: ".toList t
  let message := Text.restOfLine t
  if message = [] then none else return .runtimeError message

/-- The marker that a rule finds on a line, at the leftmost place it accepts. -/
def Rule.read : Rule → Text → Option Marker
  | .exclusion, line => do
      let _ ← Text.afterFirst? "// nontest".toList line
      return .exclusion
  | .output, line => do
      let t ← Text.afterFirst? "// expect:".toList line
      return .output (Text.restOfLine (dropSpace t))
  | .compileError, line => do
      let t ← Text.afterFirst? ("// ".toList ++ errorWord) line
      return .compileError (errorWord ++ Text.restOfLine t)
  | .compileErrorAt, line => Text.firstAt compileErrorHere? line
  | .runtimeError, line => Text.firstAt runtimeErrorHere? line

/-- The rules in the order in which they are tried. -/
def Rule.all : List Rule :=
  [.exclusion, .output, .compileError, .compileErrorAt, .runtimeError]

/-- The marker of a line: the finding of the first rule that finds one. -/
def read? (line : Text) : Option Marker :=
  Rule.all.findSome? fun rule => rule.read line

def rule : Marker → Rule
  | .exclusion => .exclusion
  | .output _ => .output
  | .compileError _ => .compileError
  | .compileErrorAt _ _ => .compileErrorAt
  | .runtimeError _ => .runtimeError

end Marker

end Conformance
