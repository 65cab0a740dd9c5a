import Conformance.Host.Shell.Builtin.Flow
import Conformance.Host.Shell.Builtin.Folder
import Conformance.Host.Shell.Start

/-!
The commands that are built into the shell, and what names of commands stand for.
-/

namespace Conformance.Shell

/-- A command that is built in.  An error of a special one ends the shell, and assignments before it
stay.  Where `assigns` holds, its arguments may assign variables. -/
structure Builtin where
  run : Exec → Mode → List Text → Act Nat
  special : Bool := false
  assigns : Bool := false

/-- What a name of a command stands for. -/
inductive Meaning where
  | builtin (b : Builtin)
  | function (body : Command)
  | program (path : Text)
  | unknown (e : FileError)

namespace Builtin

def eval (exec : Exec) (mode : Mode) (args : List Text) : Act Nat := do
  Act.runText exec { tested := mode.tested } (joinWith ' ' args)
  return (← get).status

/-- The path of a script that is looked for like a program. -/
def scriptPath (name : Text) : Act Text := do
  let m ← get
  let places := (m.value? "PATH".toList).getD Started.standardPath
  match Started.pathOf m.world.tree m.folder places name with
  | .ok path => return path
  | .error _ => do
      Act.complain (name ++ ": not found".toList)
      Act.ended 2
      throw .failed

/-- Runs a script in the shell itself, until it ends or leads back. -/
def source (exec : Exec) (_ : Mode) (args : List Text) : Act Nat := do
  match ← Act.operands args with
  | [] => return 0
  | name :: _ => do
      let path ← scriptPath name
      let supply ← Invocation.script path
      modify fun m => { m with command := some path }
      fun m =>
        match Act.runSupply exec supply m with
        | .ok _ m => .ok m.status m
        | .error .back m => .ok m.status m
        | .error stop m => .error stop m

/-- Puts a program in the place of the shell. -/
def replace (exec : Exec) (_ : Mode) (args : List Text) : Act Nat := do
  match ← Act.operands args with
  | [] => return 0
  | name :: args => do
      let m ← get
      let places := (m.value? "PATH".toList).getD Started.standardPath
      let found := do
        let path ← Started.pathOf m.world.tree m.folder places name
        Started.orShell m.world.tree m.folder path (name :: args)
      match found with
      | .error e => do
          Act.complain (name ++ ": ".toList ++ Act.programCause e)
          Act.ended (Started.failure e)
          throw .finished
      | .ok s => fun m =>
          let m := { m with traps := m.traps.filter (·.2 = []) }
          match m.finish exec (Started.run exec Started.maxFiles s) with
          | (.exited status, m) => .error .finished { m with status := status, traps := [] }
          | (.killed signal, m) => .error (.killed signal) m

/-- The built-in commands by their names, apart from those about commands. -/
def table : List (Text × Builtin) :=
  let regular := fun (name : String) (run : List Text → Act Nat) =>
    (name.toList, ({ run := fun _ _ => run } : Builtin))
  let special := fun (name : String) (run : List Text → Act Nat) =>
    (name.toList, ({ run := fun _ _ => run, special := true } : Builtin))
  let assigning := fun (name : String) (run : List Text → Act Nat) =>
    (name.toList, ({ run := fun _ _ => run, special := true, assigns := true } : Builtin))
  let condition := fun (args : List Text) => do
    return if ← Conditional.value (args.length + 1) args then 0 else 1
  [regular "echo" echo, regular "printf" printf, regular "test" condition,
    regular "[" fun args =>
      if args.getLast? = some [']'] then condition args.dropLast
      else Act.fail "missing ]".toList,
    special "exit" exit, regular "kill" kill, special ":" fun _ => return 0,
    regular "true" fun _ => return 0, regular "false" fun _ => return 1,
    special "break" (leave .leave), special "continue" (leave .again), special "return" back,
    special "set" setCommand, special "shift" shift, special "unset" unset,
    special "trap" trap, assigning "export" exportCommand, assigning "readonly" readonlyCommand,
    assigning "local" localCommand, regular "read" read, regular "getopts" getopts,
    regular "cd" cd, regular "chdir" cd, regular "pwd" pwd, regular "umask" umask,
    regular "wait" wait, ("eval".toList, { run := eval, special := true }),
    (".".toList, { run := source, special := true }),
    ("exec".toList, { run := replace, special := true })]

/-- The names of the built-in commands about commands. -/
def describing : List Text :=
  ["command", "type"].map String.toList

end Builtin

namespace Act

/-- What a name that is not built in stands for, where functions may be left out. -/
def meaning (functions : Bool) (builtin? : Text → Option Builtin) (places : Option Text)
    (name : Text) : Act Meaning := do
  let m ← get
  match if functions then m.functions.lookup name else none, builtin? name with
  | some body, _ => return .function body
  | none, some b => return .builtin b
  | none, none =>
      let places := places.getD ((m.value? "PATH".toList).getD [])
      match Started.pathOf m.world.tree m.folder places name with
      | .ok path => return .program path
      | .error e => return .unknown e

end Act

namespace Builtin

/-- What is told about a name: at length, or as the shell uses it. -/
def description (atLength functions : Bool) (places : Option Text) (name : Text) :
    Act (Option Text) := do
  let builtin? := fun (name : Text) =>
    if name ∈ describing then some { run := fun _ _ _ => return 0 } else table.lookup name
  let line := fun (suffix : String) =>
    some ((if atLength then name ++ suffix.toList else name) ++ ['\n'])
  if name ∈ keywords then return line " is a shell keyword"
  match ← Act.meaning functions builtin? places name with
  | .function _ => return line " is a shell function"
  | .builtin b =>
      return line (if b.special then " is a special shell builtin" else " is a shell builtin")
  | .program path => do
      if (← Act.locate path).isOk then
        return some ((if atLength then name ++ " is ".toList else []) ++ path ++ ['\n'])
      else return none
  | .unknown _ => return none

/-- Tells about a name; the status tells whether it is known. -/
def describe (atLength : Bool) (places : Option Text) (name : Text) : Act Nat := do
  match ← description atLength true places name with
  | some t => print "type" t 0
  | none =>
      if atLength then print "type" (name ++ ": not found\n".toList) 127 else return 127

def type (args : List Text) : Act Nat := do
  let mut status := 0
  for name in args do
    let one ← describe true none name
    status := max status one
  return status

/-- Tells what a name stands for, in one of two ways. -/
def command (args : List Text) : Act Nat := do
  let letters := ["p", "v", "V"].map fun (letter : String) => (letter.toList.headD ' ', false)
  let (options, rest) ← Act.options letters args
  let atLength := options.any (·.1 = 'V')
  let places := if options.any (·.1 = 'p') then some Started.standardPath else none
  match rest with
  | name :: _ =>
      if atLength || options.any (·.1 = 'v') then describe atLength places name else return 0
  | [] => return 0

def all : List (Text × Builtin) :=
  table ++ [("command".toList, { run := fun _ _ => command }),
    ("type".toList, { run := fun _ _ => type })]

def named? (name : Text) : Option Builtin :=
  all.lookup name

end Builtin

end Conformance.Shell
