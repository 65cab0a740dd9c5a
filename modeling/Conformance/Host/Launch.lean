import Conformance.Host.Shell.Execution
import Conformance.Interpreter

/-!
Starting interpreters in a file tree, as the command line does.  Standard input is empty.  What
scripts write to files is there for the calls that follow.
-/

namespace Conformance.Launch

/-- The variables that are handed on to an interpreter. -/
def environment : List (Text × Shell.Variable) :=
  [("HOME", "/root".toList), ("PATH", Shell.Started.standardPath),
    ("PWD", Shell.pathOf FileTree.home)].map fun (name, value) =>
      (name.toList, { value := some value, exported := true })

def firstProcess : Nat := 1000

/-- The number of the process that runs as long as the system does. -/
def systemProcess : Nat := 1

/-- The state of a process that runs in a tree and has done nothing yet. -/
def blank (root : FileTree) : Shell.Machine where
  world := {
    tree := root
    streams := #[.device .nothing .toRead, .collected [], .collected []]
    process := firstProcess
    alive := [firstProcess, systemProcess] }
  name := []
  values := environment
  descriptors := [(0, 0), (1, 1), (2, 2)]
  process := firstProcess
  own := firstProcess

/-- The program that a call starts; a name without slashes is looked for among the installed
programs only. -/
def program (root : FileTree) (call : Call) : Except FileError Shell.Started :=
  if '\x00' ∈ call.interpreter ∨ '\x00' ∈ call.script then .error .nulInCommand
  else if call.interpreter = [] then .error .notFound
  else do
    let name := Shell.spread call.interpreter
    let path ← Shell.Started.pathOf root FileTree.home Shell.Started.standardPath name
    Shell.Started.atPath root FileTree.home Shell.Started.maxFiles path
      [name, Shell.spread call.script]

/-- The exit code that an ending shows; a process that was killed has none of its own. -/
def exitCode : Shell.Ending → Int
  | .exited status => status
  | .killed _ => -1

def runOf (ending : Shell.Ending) (m : Shell.Machine) : Run where
  stdout := Shell.gather (m.world.collected 1)
  stderr := Shell.gather (m.world.collected 2)
  exitCode := exitCode ending

/-- The runner that starts an interpreter on a script in a whole tree. -/
def runner : Runner FileTree := fun call root =>
  match program root call with
  | .error e => .error e.message root
  | .ok s =>
      let exec := Shell.Act.exec Shell.Act.maxDepth
      let act := Shell.Started.run exec Shell.Started.maxFiles s
      let (ending, m) := (blank root).finish exec act
      .ok (runOf ending m) m.world.tree

end Conformance.Launch
