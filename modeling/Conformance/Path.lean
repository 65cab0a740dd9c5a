import Conformance.Text

/-!
Paths as they are written.  A path is never normalised: what is shown is what was given, with the
names below it after slashes.
-/

namespace Conformance

/-- A path as written. -/
abbrev Path := Text

namespace Path

/-- The path of a name below a directory.  No slash is doubled, nothing is put before a name below
the empty path, and an absolute name stands for itself. -/
def below (dir : Path) (name : Text) : Path :=
  if name.head? = some '/' then name
  else if dir = [] ∨ dir.getLast? = some '/' then dir ++ name
  else dir ++ '/' :: name

/-- The path of a name that lies below several directories. -/
def belowAll (dir : Path) (names : List Text) : Path :=
  names.foldl below dir

/-- The parts of a path between its slashes. -/
def names (path : Path) : List Text :=
  pieces '/' path

/-- The extension of a file name: what follows its last dot, unless nothing precedes that dot. -/
def extension? (name : Text) : Option Text :=
  let parts := pieces '.' name
  match parts.getLast?, joinWith '.' parts.dropLast with
  | _, [] => none
  | extension, _ => extension

end Path

end Conformance
