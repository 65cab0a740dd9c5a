import Conformance.Text

/-!
Findings: messages about a test with lines of context below them.  A finding is shown as its
message and its context lines, one below the other.
-/

namespace Conformance

/-- A message with context lines. -/
structure Finding where
  message : Text
  details : List Text := []
deriving DecidableEq, Repr

namespace Finding

/-- The finding with more context lines at its end. -/
def withDetails (f : Finding) (details : List Text) : Finding :=
  { f with details := f.details ++ details }

def lines (f : Finding) : List Text :=
  f.message :: f.details

def text (f : Finding) : Text :=
  joinWith '\n' f.lines

/-- The lines of a finding can be read off its text unless one of them holds a line feed. -/
theorem pieces_text {f : Finding} (h : ∀ line ∈ f.lines, '\n' ∉ line) :
    pieces '\n' f.text = f.lines :=
  pieces_joinWith (by simp [lines]) h

end Finding

end Conformance
