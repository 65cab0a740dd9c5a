import Conformance.Host.Shell.Argument
import Conformance.Host.Shell.Printing

/-!
The built-in commands that print.
-/

namespace Conformance.Shell.Builtin

/-- Prints a text under the name of a command; the status tells whether that was possible. -/
def print (name : String) (t : Text) (status : Nat) : Act Nat := do
  if ← Act.write 1 t then return status
  else
    Act.complain (name.toList ++ ": I/O error".toList)
    return if status % 2 = 0 then status + 1 else status

def echo (args : List Text) : Act Nat :=
  print "echo" (Printing.echo args) 0

def printf (args : List Text) : Act Nat := do
  match ← Act.operands args with
  | [] => Act.fail "usage: printf format [arg ...]".toList
  | format :: args => do
      let p := Printing.printf format args
      for t in p.complaints.reverse do
        Act.complain t
      print "printf" p.text p.status

end Conformance.Shell.Builtin
