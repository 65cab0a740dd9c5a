import Conformance.Host.Shell.Argument
import Conformance.Host.Shell.Builtin.Output
import Conformance.Host.Shell.Variable

/-!
The built-in commands about the current folder.  The shell keeps the path by which it has come
there, in which links stay as they are.
-/

namespace Conformance.Shell.Builtin

/-- The path behind another one by the names in a second one, where two dots leave out the name
before. -/
def walked (path dest : Text) : Text :=
  let start := if dest.head? = some '/' then [] else (pieces '/' path).filter (· ≠ [])
  let names := (pieces '/' dest).foldl (fun (names : List Text) name =>
    if name = [] || name = ['.'] then names
    else if name = ['.', '.'] then names.dropLast
    else names ++ [name]) start
  '/' :: joinWith '/' names

/-- Is the path of the folder without links asked for?  The last option counts. -/
def isPhysical (options : List (Char × Text)) : Bool :=
  options.getLast?.any (·.1 = 'P')

def pwd (args : List Text) : Act Nat := do
  let (options, _) ← Act.options [('L', false), ('P', false)] args
  let m ← get
  print "pwd" ((if isPhysical options then m.folderPath else m.path) ++ ['\n']) 0

/-- Does a path lead on only from the current folder or from the root? -/
def isPlain (path : Text) : Bool :=
  path.head? = some '/' || (pieces '/' path).head?.any fun name => name ∈ [['.'], ['.', '.']]

def isFolder (path : Text) : Act Bool := do
  match ← Act.locate path with
  | .ok ⟨_, .folder _ _⟩ => return true
  | _ => return false

/-- The first folder in a row of places in which a path leads to a folder: the path there, and
whether it is shown. -/
def placed? (path : Text) : List Text → Act (Option (Text × Bool))
  | [] => return none
  | place :: places => do
      let whole := if place = [] then path else place ++ '/' :: path
      if ← isFolder whole then return some (whole, place ≠ []) else placed? path places

/-- Sets a variable that is handed on to programs. -/
def setHandedOn (name : String) (value : Text) : Act Unit :=
  Act.setVariable name.toList fun v => { v with value := some value, exported := true }

/-- Goes to the folder at a path; tells whether there is one. -/
def goTo (physical : Bool) (path : Text) : Act Bool := do
  let m ← get
  let whole := if physical then path else walked m.path path
  match ← Act.locate whole with
  | .ok ⟨trail, .folder _ _⟩ => do
      modify fun m => { m with
        folder := trail.reverse
        pathBy := if physical then none else some whole }
      setHandedOn "OLDPWD" m.path
      setHandedOn "PWD" (← get).path
      return true
  | _ => return false

/-- Goes to another folder: the one of a path, the home folder, or the one before. -/
def cd (args : List Text) : Act Nat := do
  let (options, rest) ← Act.options [('L', false), ('P', false)] args
  let m ← get
  let isBack := rest.head? = some ['-']
  let named :=
    match rest with
    | [] => (m.value? "HOME".toList).getD []
    | arg :: _ => if isBack then (m.value? "OLDPWD".toList).getD [] else arg
  let path := if named = [] then ['.'] else named
  let places := ((m.value? "CDPATH".toList).map (pieces ':')).getD []
  let (path, isShown) := (← placed? path (if isPlain named then [] else places)).getD (path, false)
  if !(← goTo (isPhysical options) path) then Act.fail ("can't cd to ".toList ++ named)
  else if isBack || isShown then print "cd" ((← get).path ++ ['\n']) 0
  else return 0

end Conformance.Shell.Builtin
