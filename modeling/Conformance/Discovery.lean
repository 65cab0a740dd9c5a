import Conformance.FileTree
import Conformance.Text.Search

/-!
Finding the scripts of a suite.  Folders are searched at any depth; links to folders are not
entered.  The scripts come out in the order of their paths, name by name.
-/

namespace Conformance

structure Filter where
  extension : Text
  excluded : Text
deriving DecidableEq, Repr

namespace Filter

/-- Is an entry left out for its name?  An empty segment leaves nothing out. -/
def skips (f : Filter) (name : Text) : Bool :=
  f.excluded ≠ [] && Text.contains name f.excluded

def selects (f : Filter) (name : Text) : Bool :=
  Path.extension? name = some f.extension

end Filter

structure DiscoveryError where
  folder : Path
  cause : FileError
deriving DecidableEq, Repr

def DiscoveryError.message (e : DiscoveryError) : Text :=
  "failed to discover tests under '".toList ++ e.folder ++ "': ".toList ++ e.cause.message

namespace Discovery

mutual

/-- The scripts in the folder at a path, each as the names that lead to it from there. -/
def inFolder (f : Filter) (path : Path) : FileTree → Except DiscoveryError (List (List Text))
  | .folder readable entries =>
      if FileTree.maxPathBytes < (Text.toUtf8 path).length then .error ⟨path, .nameTooLong⟩
      else if readable then inEntries f path entries
      else .error ⟨path, .accessDenied⟩
  | _ => .error ⟨path, .notFolder⟩

/-- The scripts among the entries of the folder at a path. -/
def inEntries (f : Filter) (path : Path) :
    List (Text × FileTree) → Except DiscoveryError (List (List Text))
  | [] => .ok []
  | entry :: rest => do
      let here ← inEntry f path entry
      let others ← inEntries f path rest
      return here ++ others

/-- The scripts at or below one entry of the folder at a path. -/
def inEntry (f : Filter) (path : Path) :
    Text × FileTree → Except DiscoveryError (List (List Text))
  | (name, node) =>
      if f.skips name then .ok []
      else if node matches .folder .. then do
        let found ← inFolder f (Path.below path name) node
        return found.map (name :: ·)
      else .ok (if f.selects name then [[name]] else [])

end

/-- Does a name come before another one?  The first characters that differ decide. -/
def nameBefore (a b : Text) : Bool :=
  a.lex b fun c d => c.toNat < d.toNat

/-- Does a row of names come before another one?  The first names that differ decide. -/
def namesBefore (a b : List Text) : Bool :=
  a.lex b nameBefore

def sort (found : List (List Text)) : List (List Text) :=
  found.mergeSort fun a b => !namesBefore b a

end Discovery

/-- The scripts of a suite in a whole tree, in the order in which they run.  A root of the suite
that is a file is the only script, whatever its name. -/
def discover (f : Filter) (tree : FileTree) (root : Path) : Except DiscoveryError (List Path) :=
  match tree.find root with
  | .error e => .error ⟨root, e⟩
  | .ok (.file _ _) => .ok [root]
  | .ok node => do
      let found ← Discovery.inFolder f root node
      return (Discovery.sort found).map (Path.belowAll root)

end Conformance
