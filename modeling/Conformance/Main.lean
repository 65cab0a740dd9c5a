import Conformance.Host.Archive
import Conformance.Host.Launch
import Conformance.Program

/-!
The command line, and with it all that the programs themselves leave open: the whole tree, which is
read from standard input as one text, how interpreters are run in it, and how long a benchmark may
go on.
-/

namespace Conformance.Program

/-- What a stream holds, behind what was read already. -/
partial def readAll (stream : IO.FS.Stream) (already : ByteArray) : IO ByteArray := do
  let more ← stream.read 65536
  if more.isEmpty then return already
  readAll stream (already ++ more)

/-- More trials than the number of a trial can tell apart. -/
def budget : Nat := UInt64.size + 1

/-- The ending of a benchmark that was stopped from outside. -/
def stopped : Ending where
  exitCode := 130
  stderr := Text.toUtf8 "interrupted\n".toList

/-- The program that the first argument chooses: the benchmark runner if it asks for that, and the
suite runner otherwise.  Work in memory takes no time that is worth a report. -/
def run (args : List Text) (root : FileTree) : Ending :=
  match args with
  | first :: rest =>
      if first = "bench".toList then
        (benchmark rest Launch.runner root budget).getD stopped
      else suite (first :: rest) Launch.runner root {}
  | [] => suite [] Launch.runner root {}

end Conformance.Program

def main (args : List String) : IO UInt32 := do
  let input ← Conformance.Program.readAll (← IO.getStdin) .empty
  let top := Conformance.FileTree.Archive.ofText (Conformance.Text.ofUtf8 input.toList)
  let ending := Conformance.Program.run (args.map String.toList) top.whole
  (← IO.getStdout).write ⟨ending.stdout.toArray⟩
  (← IO.getStderr).write ⟨ending.stderr.toArray⟩
  return UInt32.ofNat ending.exitCode.toNat
