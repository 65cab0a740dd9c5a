import Conformance.Host.Shell.Argument

/-!
The built-in commands that lead on to somewhere else than the next command.
-/

namespace Conformance.Shell.Builtin

/-- Leaves loops, or goes on with the next round of one of them; `stop` is told how many loops lie
between.  Outside of loops there is nothing to leave. -/
def leave (stop : Nat → Stop) (args : List Text) : Act Nat := do
  let n ← match args with
    | [] => pure 1
    | arg :: _ => Act.positive arg
  let m ← get
  if m.depth = 0 then return 0
  else
    Act.ended 0
    throw (stop (min n m.depth - 1))

/-- The status that an argument asks for; without one it is the given status. -/
def statusOf (given : Nat) : List Text → Act Nat
  | [] => return given
  | arg :: _ => Act.count arg

/-- Ends the function or the script that runs. -/
def back (args : List Text) : Act Nat := do
  let status ← statusOf (← get).status args
  Act.ended status
  throw .back

/-- Ends the shell.  In a command for a signal, the status without an argument is that from
before. -/
def exit (args : List Text) : Act Nat := do
  let m ← get
  let status ← statusOf (m.leaving.getD m.status) args
  Act.ended status
  throw .finished

end Conformance.Shell.Builtin
