import Conformance.Host.Tree
import Conformance.Text.Search

/-!
File trees as one text.  A heading such as `-- file test/a.qi --` starts an entry, and the lines
below it are its content.  The kinds of entries are files, programs (files that may be executed),
folders, and links, whose first line is the target.
-/

namespace Conformance.FileTree.Archive

/-- What starts an entry: the word for its kind, and its path. -/
structure Heading where
  kind : Text
  path : Path
deriving DecidableEq, Repr

/-- The kinds of entries, each with the node that a content makes. -/
def kinds : List (Text × (Text → FileTree)) :=
  [("file".toList, fun content => .file (Text.toBytes content) false),
    ("program".toList, fun content => .file (Text.toBytes content) true),
    ("folder".toList, fun _ => .empty),
    ("link".toList, fun content => .link (Text.restOfLine content))]

/-- The heading on a line, if it is one. -/
def heading? (line : Text) : Option Heading := do
  let t ← Text.after? "-- ".toList line
  let reversed ← Text.after? "-- ".toList t.reverse
  let words := reversed.reverse
  let kind := words.takeWhile (· ≠ ' ')
  if (kinds.lookup kind).isSome then
    let path := words.drop (kind.length + 1)
    if path = [] then none else some ⟨kind, path⟩
  else none

/-- The pieces before the first heading, and the entries from there on.  Content that a heading
follows ends at a line end. -/
def sections : List Text → List Text × List (Heading × List Text)
  | [] => ([], [])
  | line :: rest =>
      let (content, entries) := sections rest
      match heading? line with
      | some h => ([[]], (h, content) :: entries)
      | none => (line :: content, entries)

/-- A tree with an entry put into it. -/
def putEntry (top : FileTree) (entry : Heading × List Text) : FileTree :=
  match kinds.lookup entry.1.kind with
  | some node => top.put entry.1.path (node (joinWith '\n' entry.2))
  | none => top

def ofText (t : Text) : FileTree :=
  (sections (pieces '\n' t)).2.foldl putEntry .empty

end Conformance.FileTree.Archive
