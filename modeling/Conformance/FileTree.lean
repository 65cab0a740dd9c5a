import Conformance.Numeral
import Conformance.Path
import Conformance.Text.Utf8

/-!
File trees as values: folders, files and links, and the way a path leads through a whole tree.
Relative paths start at the folder in which programs run.
-/

namespace Conformance

/-- The ways in which a path can fail to lead to what is asked for. -/
inductive FileError where
  | notFound
  | accessDenied
  | notFolder
  | isFolder
  | nameTooLong
  | tooManyLinks
  | notExecutable
  | notConnected
  | nulInPath
  | nulInCommand
deriving DecidableEq, Repr

/-- What is wrong, and the number of the error if the system has one for it. -/
def FileError.cause : FileError → Text × Option Nat
  | .notFound => ("No such file or directory".toList, some 2)
  | .accessDenied => ("Permission denied".toList, some 13)
  | .notFolder => ("Not a directory".toList, some 20)
  | .isFolder => ("Is a directory".toList, some 21)
  | .nameTooLong => ("File name too long".toList, some 36)
  | .tooManyLinks => ("Too many levels of symbolic links".toList, some 40)
  | .notExecutable => ("Exec format error".toList, some 8)
  | .notConnected => ("No such device or address".toList, some 6)
  | .nulInPath => ("file name contained an unexpected NUL byte".toList, none)
  | .nulInCommand => ("nul byte found in provided data".toList, none)

def FileError.message (e : FileError) : Text :=
  match e.cause with
  | (cause, some number) =>
      cause ++ " (os error ".toList ++ Numeral.ofNat number ++ [')']
  | (cause, none) => cause

/-- Something that is opened like a file, but keeps nothing. -/
inductive Device where
  /-- Takes everything and gives nothing. -/
  | nothing
  /-- Has no room for anything. -/
  | full
  /-- Is not connected. -/
  | terminal
  /-- What a descriptor of the process that opens it is connected to. -/
  | descriptor (number : Nat)
deriving DecidableEq, Repr

/-- A file, a symbolic link, a folder with named entries, or a device. -/
inductive FileTree where
  | file (content : ByteArray) (executable : Bool)
  | link (target : Path)
  | folder (readable : Bool) (entries : List (Text × FileTree))
  | device (d : Device)

namespace FileTree

def empty : FileTree := .folder true []

/-- The longest name that a folder can hold, in bytes. -/
def maxNameBytes : Nat := 255

/-- The longest path that can be followed, in bytes. -/
def maxPathBytes : Nat := 4095

/-- The number of links that are followed on the way to one file. -/
def maxLinks : Nat := 40

/-- A node with the way to it: the names from the root on, the last one first. -/
structure Found where
  trail : List Text
  node : FileTree

/-- Follows names from a node: `above` holds the folders over it, the innermost first, each with the
name that leads on from there.  A name of a link leads to its target, as long as there are links
left to follow. -/
def follow (links : Nat) (above : List (Text × FileTree)) (here : FileTree) (names : List Text) :
    Except FileError Found :=
  match names, here with
  | [], _ => .ok ⟨above.map Prod.fst, here⟩
  | name :: rest, .folder readable entries =>
      if name = [] ∨ name = ['.'] then follow links above (.folder readable entries) rest
      else if name = ['.', '.'] then
        match above with
        | [] => follow links [] (.folder readable entries) rest
        | outer :: above => follow links above outer.2 rest
      else if maxNameBytes < (Text.toUtf8 name).length then .error .nameTooLong
      else
        match entries.lookup name, links with
        | none, _ => .error .notFound
        | some (.link _), 0 => .error .tooManyLinks
        | some (.link target), links + 1 =>
            if target.head? = some '/' then
              let root := (above.getLast?.map Prod.snd).getD (.folder readable entries)
              follow links [] root (Path.names target ++ rest)
            else follow links above (.folder readable entries) (Path.names target ++ rest)
        | some node, links => follow links ((name, .folder readable entries) :: above) node rest
  | _ :: _, _ => .error .notFolder
termination_by (links, names.length)

/-- What a path leads to in a whole tree, from the folder of some names on. -/
def locate (root : FileTree) (folder : List Text) (path : Path) : Except FileError Found :=
  if '\x00' ∈ path then .error .nulInPath
  else if path = [] then .error .notFound
  else if maxPathBytes < (Text.toUtf8 path).length then .error .nameTooLong
  else if path.head? = some '/' then follow maxLinks [] root (Path.names path)
  else follow maxLinks [] root (folder ++ Path.names path)

/-- The names of the folder in which programs run. -/
def home : List Text :=
  ["tmp", "run"].map String.toList

def find (root : FileTree) (path : Path) : Except FileError FileTree :=
  (locate root home path).map Found.node

/-- What a node gives to read. -/
def content : FileTree → Except FileError ByteArray
  | .file content _ => .ok content
  | .folder _ _ => .error .isFolder
  | .link _ => .error .notFound
  | .device .terminal => .error .notConnected
  | .device _ => .ok .empty

def read (root : FileTree) (path : Path) : Except FileError (List UInt8) :=
  ((root.find path).bind content).map ByteArray.toList

end FileTree

end Conformance
