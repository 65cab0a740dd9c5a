import Conformance.Path
import Conformance.Run

/-!
Interpreters as the rest of the library sees them: something that may start, and then leaves a run
behind.
-/

namespace Conformance

/-- An interpreter that is started on a script. -/
structure Call where
  interpreter : Path
  script : Path
deriving DecidableEq, Repr

/-- Answers a call in a state of the world: with a run, or with the reason why the interpreter did
not start, and with the state that the call leaves behind. -/
abbrev Runner (ω : Type) := Call → EStateM Text ω Run

structure LaunchError where
  interpreter : Path
  cause : Text
deriving DecidableEq, Repr

def LaunchError.message (e : LaunchError) : Text :=
  "failed to launch interpreter '".toList ++ e.interpreter ++ "': ".toList ++ e.cause

end Conformance
