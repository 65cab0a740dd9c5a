import Conformance.FileTree

/-!
The whole tree in which the command line runs the programs: the folder at `home` stands in a larger
tree with devices and a few installed programs.  This and the other modules of the host are what
the command line hands to the programs, which themselves take any tree and any runner.
-/

namespace Conformance.FileTree

/-- The part of a path behind its last slash, and what stands before it. -/
def splitLast (path : Path) : Path × Text :=
  let name := (path.reverse.takeWhile (· ≠ '/')).reverse
  (path.take (path.length - name.length), name)

/-- The folder in which a path names something, be it there or not, and the name in it.  A link of
that name is followed, as long as there are links left to follow. -/
def placeOf (root : FileTree) : Nat → List Text → Path → Except FileError (List Text × Text) :=
  fun links folder path =>
    let (before, name) := splitLast path
    if path = [] then .error .notFound
    else if name = [] then .error .isFolder
    else
      match locate root folder (if before = [] then ['.'] else before), links with
      | .error e, _ => .error e
      | .ok ⟨trail, .folder _ entries⟩, links =>
          match entries.lookup name, links with
          | some (.link _), 0 => .error .tooManyLinks
          | some (.link target), links + 1 => placeOf root links trail.reverse target
          | _, _ => .ok (trail.reverse, name)
      | .ok _, _ => .error .notFolder

/-- The programs that are installed, apart from those in the tree. -/
def installed : List Text :=
  ["cat", "dash", "echo", "env", "false", "printf", "pwd", "seq", "sh", "sleep", "test",
    "true"].map String.toList

def programFolder : List Text :=
  ["usr", "bin"].map String.toList

/-- The devices, and links to those that stand for descriptors. -/
def devices : FileTree :=
  .folder true
    [("fd".toList, .link "/proc/self/fd".toList),
      ("full".toList, .device .full),
      ("null".toList, .device .nothing),
      ("stderr".toList, .link "/proc/self/fd/2".toList),
      ("stdin".toList, .link "/proc/self/fd/0".toList),
      ("stdout".toList, .link "/proc/self/fd/1".toList),
      ("tty".toList, .device .terminal),
      ("zero".toList, .device .nothing)]

/-- The names of the folder that holds the descriptors of a process. -/
def descriptorFolder : List Text :=
  ["proc", "self", "fd"].map String.toList

/-- The folder of the descriptors of a process. -/
def descriptors : FileTree :=
  .folder true ((List.range 10).map fun n => (Numeral.ofNat n, .device (.descriptor n)))

/-- The tree in the larger one around it. -/
def whole (top : FileTree) : FileTree :=
  let folder := fun entries => FileTree.folder true entries
  let programs := installed.map fun name => (name, FileTree.file .empty true)
  folder
    [("bin".toList, .link "usr/bin".toList),
      ("dev".toList, devices),
      ("etc".toList, folder [("passwd".toList, .file .empty false)]),
      ("proc".toList, folder [("self".toList, folder [("fd".toList, descriptors)])]),
      ("root".toList, empty),
      ("tmp".toList, folder [("run".toList, top)]),
      ("usr".toList, folder [("bin".toList, folder programs)]),
      ("var".toList, empty)]

/-- The entries of a folder with one more, which takes the place of one of the same name. -/
def putEntry (name : Text) (change : Option FileTree → FileTree) :
    List (Text × FileTree) → List (Text × FileTree)
  | [] => [(name, change none)]
  | (other, node) :: rest =>
      if other = name then (name, change (some node)) :: rest
      else (other, node) :: putEntry name change rest

/-- A tree with a change of what stands at the end of a row of names; missing folders are made. -/
def alterAt (change : Option FileTree → FileTree) : List Text → Option FileTree → FileTree
  | [], old => change old
  | name :: rest, some (.folder readable entries) =>
      .folder readable (putEntry name (alterAt change rest) entries)
  | name :: rest, none => .folder true (putEntry name (alterAt change rest) [])
  | _ :: _, some other => other

/-- What takes the place of a node; a folder without entries leaves another folder as it is. -/
def replacement (node : FileTree) : Option FileTree → FileTree
  | some (.folder readable entries) =>
      match node with
      | .folder _ [] => .folder readable entries
      | node => node
  | _ => node

/-- A tree with a node put at a path. -/
def put (top : FileTree) (path : Path) (node : FileTree) : FileTree :=
  let names := (Path.names path).filter fun name => name ≠ [] && name ≠ ['.']
  alterAt (replacement node) names (some top)

end Conformance.FileTree
