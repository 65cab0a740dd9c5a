import Conformance.Host.Shell.Builtin.Setting
import Conformance.Host.Shell.Script

/-!
Starting a shell with arguments: options, a script or commands, and the arguments for these.
-/

namespace Conformance.Shell

namespace Machine

/-- The variables that a shell sets when it starts. -/
def firstValues : List (Text × Variable) :=
  [("IFS", " \t\n"), ("OPTIND", "1"), ("PS2", "> "), ("PS4", "+ ")].map fun (name, value) =>
    (name.toList, { value := some value.toList })

/-- Does a path from the root on lead to the current folder? -/
def leadsHere (m : Machine) (path : Text) : Bool :=
  path.head? = some '/' &&
    (FileTree.locate m.world.tree m.folder (gather path)).toOption.any fun found =>
      found.trail.reverse = m.folder

/-- The state of a shell that takes the place of what a process did before.  It knows the variables
that are handed on to it. -/
def renewed (m : Machine) (name : Text) : Machine :=
  let set := fun (v : Text × Variable) => firstValues.any (·.1 = v.1)
  { world := m.world
    name := name
    folder := m.folder
    pathBy := (m.value? "PWD".toList).filter m.leadsHere
    values := firstValues ++ m.values.filter fun v => v.2.exported && v.2.value.isSome && !set v
    descriptors := m.descriptors
    process := m.own
    own := m.own
    deaf := m.deaf ++ (m.traps.filter (·.2 = [])).map Prod.fst
    mask := m.mask }

end Machine

namespace Invocation

/-- Sets the options at the start of the arguments; tells whether commands are given, and what is
left.  A shell for a login does nothing else than others.  Each step uses up an argument. -/
def options : Nat → Bool → List Text → Act (Bool × List Text)
  | 0, given, args => return (given, args)
  | _ + 1, given, [] => return (given, [])
  | steps + 1, given, arg :: args =>
      match arg with
      | ['-'] => return (given, args)
      | ['-', '-'] => return (given, args)
      | '-' :: letters => do
          let rest ← Builtin.setLetters true (letters.filter fun c => c ≠ 'c' && c ≠ 'l') args
          options steps (given || 'c' ∈ letters) rest
      | '+' :: letters => do
          options steps given (← Builtin.setLetters false letters args)
      | _ => return (given, arg :: args)

/-- The stream of a script at a path. -/
def script (path : Text) : Act Supply := do
  match ← Act.openPath path .toRead false false with
  | .error e => Act.fail ("cannot open ".toList ++ path ++ ": ".toList ++ Act.cause false e)
  | .ok i => return .stream i

/-- Sets the name of the shell and its arguments, if there are some. -/
def takeNames : List Text → Act Unit
  | [] => return
  | name :: args => modify fun m => { m with name := name, args := args }

/-- Runs a shell in a process that is there already. -/
def run (exec : Exec) (name : Text) (args : List Text) : Act Unit := do
  modify fun m => m.renewed name
  let (given, args) ← options (args.length + 1) false args
  if given then
    match args with
    | [] => Act.fail "-c requires an argument".toList
    | commands :: names => do
        takeNames names
        Act.runText exec { last := true } commands
  else
    match args, (← get).has 's' with
    | path :: args, false => do
        let supply ← script path
        takeNames (path :: args)
        Act.runSupply exec supply
    | args, _ => do
        modify fun m => { m with args := args }
        Act.runSupply exec .input

end Invocation

end Conformance.Shell
