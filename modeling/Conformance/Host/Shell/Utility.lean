import Conformance.Host.Shell.Builtin.Process
import Conformance.Host.Shell.Condition

/-!
Small programs that are installed beside the shell.
-/

namespace Conformance.Shell.Utility

/-- A message of a program under the name by which it was called. -/
def complain (name t : Text) : Act Nat := do
  Act.report (name ++ ": ".toList ++ t)
  return 1

/-- A message about a wrong argument, which shows the argument in quotation marks. -/
def refuse (name : Text) (cause : String) (arg : Text) : Act Nat := do
  let quoted := spread "‘".toList ++ arg ++ spread "’".toList
  let status ← complain name (cause.toList ++ ' ' :: quoted)
  Act.report ("Try '".toList ++ name ++ " --help' for more information.".toList)
  return status

/-- What is wrong with a descriptor that cannot be used. -/
def badDescriptor : Text :=
  "Bad file descriptor".toList

def print (name t : Text) : Act Nat := do
  if ← Act.write 1 t then return 0
  let w := (← get).world
  let cause :=
    match (← Act.stream? 1).bind (w.streams[·]?) with
    | some (.device .full _) => "No space left on device".toList
    | _ => badDescriptor
  complain name ("write error: ".toList ++ cause)

def echo (name : Text) (args : List Text) : Act Nat :=
  match args with
  | ['-', 'n'] :: args => print name (joinWith ' ' args)
  | args => print name (joinWith ' ' args ++ ['\n'])

/-- The file that a stream leads to, and the place in it. -/
def fileOf (w : World) (i : Nat) : Option (List Text × Nat) :=
  match w.streams[i]? with
  | some (.file names offset _) => some (names, offset)
  | _ => none

/-- Takes what a stream gives; or tells why that is not possible. -/
def contentOf (i : Nat) : Act (Except Text Text) := do
  let w := (← get).world
  let output := (← Act.stream? 1).bind (fileOf w)
  match fileOf w i with
  | some (names, offset) =>
      if (FileTree.follow 0 [] w.tree names).toOption.any (·.node matches .folder _ _) then
        return .error (FileError.cause .isFolder).1
      if output.any (·.1 = names) && offset < (w.content names).size then
        return .error "input file is output file".toList
  | none => pure ()
  match w.rest? i with
  | some t => do
      Act.world fun w => ((), w.skip i t.length)
      return .ok t
  | none => return .error badDescriptor

/-- Takes what standard input gives, or what a file at a path holds. -/
def contentAt (path : Text) : Act (Except Text Text) := do
  if path = ['-'] then
    match ← Act.stream? 0 with
    | some i => contentOf i
    | none => return .error badDescriptor
  else
    match ← Act.openPath path .toRead false false with
    | .ok i => contentOf i
    | .error e => return .error e.cause.1

/-- Prints files one after the other, up to one that cannot be printed.  Each that cannot be read is
told. -/
def catAll (name : Text) (status : Nat) : List Text → Act Nat
  | [] => return status
  | path :: paths => do
      match ← contentAt path with
      | .ok t => if (← print name t) = 0 then catAll name status paths else return 1
      | .error cause => do
          let _ ← complain name (path ++ ": ".toList ++ spread cause)
          catAll name 1 paths

/-- Prints files one after the other, or what it is given. -/
def cat (name : Text) (args : List Text) : Act Nat := do
  let paths := if args = [] then [['-']] else args
  if (← Act.stream? 1).isNone then complain name ("standard output: ".toList ++ badDescriptor)
  else
    let status ← catAll name 0 paths
    if ['-'] ∈ paths && (← Act.stream? 0).isNone then
      complain name ("closing standard input: ".toList ++ badDescriptor)
    else return status

/-- The integers from one to another in steps, as lines. -/
def count (first step last : Int) : Text :=
  let size := if step = 0 then 0 else ((last - first) / step + 1).toNat
  (List.range size).flatMap fun (n : Nat) => Numeral.ofInt (first + step * n) ++ ['\n']

def seq (name : Text) (args : List Text) : Act Nat := do
  match args.find? fun t => (Integer.whole? Integer.decimal? t).isNone with
  | some t => refuse name "invalid floating point argument:" t
  | none =>
      match args.filterMap (Integer.whole? Integer.decimal?) with
      | [last] => print name (count 1 1 last)
      | [first, last] => print name (count first 1 last)
      | [first, step, last] => print name (count first step last)
      | _ => complain name "missing operand".toList

def sleep (name : Text) (args : List Text) : Act Nat := do
  match args.find? fun t => (Real.read? t).isNone with
  | some t => refuse name "invalid time interval" t
  | none => do
      modify fun m => { m with slept := true }
      return 0

/-- Prints the path of the current folder without links. -/
def pwd (name : Text) (_ : List Text) : Act Nat := do
  print name ((← get).folderPath ++ ['\n'])

def test (_ : Text) (args : List Text) : Act Nat := do
  return if ← Conditional.value (args.length + 1) args then 0 else 1

/-- The programs by their names.  Each is given the name by which it was called. -/
def all : List (Text × (Text → List Text → Act Nat)) :=
  [("cat", cat), ("echo", echo), ("false", fun _ _ => return 1),
    ("printf", fun _ => Builtin.printf), ("pwd", pwd), ("seq", seq),
    ("sleep", sleep), ("test", test), ("true", fun _ _ => return 0)].map fun (name, run) =>
      (name.toList, run)

end Conformance.Shell.Utility
