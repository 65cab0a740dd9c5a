import Conformance.Host.Shell.Invocation
import Conformance.Host.Shell.Utility

/-!
Starting programs.  A program is installed, or it is a file of the tree that may be executed and
names another program on its first line.
-/

namespace Conformance.Shell

/-- What there is to start: an installed program with its arguments, the first of which is the name
it is called by. -/
structure Started where
  program : Text
  args : List Text
deriving DecidableEq, Repr

namespace Started

/-- Blanks on the first line of a file. -/
def isBlank (c : Char) : Bool :=
  c = ' ' || c = '\t'

/-- The count of bytes of a file in which its first line is looked for. -/
def lineBytes : Nat := 256

/-- Does the character end the name of a program on the first line? -/
def endsProgram (c : Char) : Bool :=
  isBlank c || c = '\x00'

/-- The first line of a file behind the mark of two characters at its start, given all bytes behind
that mark in which it is looked for.  Where there is no line end, the line takes all bytes but the
last one, as long as the name of a program ends there. -/
def firstLine? (t : Text) : Option Text :=
  let line := t.takeWhile fun c => c ≠ '\n' && c ≠ '\x00'
  if t[line.length]? = some '\n' then some line
  else if (t.dropWhile isBlank).any endsProgram then some t.dropLast
  else none

/-- The program that the first line of a file names, and the argument behind it, if there is one.
Zeros stand for what a short file does not have. -/
def program? (content : ByteArray) : Option (Text × List Text) :=
  let start := ofBytes (content.extract 0 lineBytes).toList
  match start ++ List.replicate (lineBytes - start.length) '\x00' with
  | '#' :: '!' :: t => do
      let line ← firstLine? t
      let shown := (line.reverse.dropWhile isBlank).reverse.dropWhile isBlank
      if shown = [] then none
      let program := shown.takeWhile fun c => !endsProgram c
      match shown.drop program.length with
      | ' ' :: behind => return (program, argument behind)
      | '\t' :: behind => return (program, argument behind)
      | _ => return (program, [])
  | _ => none
where
  /-- The argument behind a blank. -/
  argument (t : Text) : List Text :=
    [(t.dropWhile isBlank).takeWhile (· ≠ '\x00')]

/-- The number of files in a row of which each may be named by the one before; the last one is an
installed program. -/
def maxFiles : Nat := 6

/-- What the program at a path is.  A file that names no program is not executable. -/
def atPath (root : FileTree) (folder : List Text) : Nat → Text → List Text →
    Except FileError Started
  | 0, _, _ => .error .tooManyLinks
  | files + 1, path, args => do
      let found ← FileTree.locate root folder (gather path)
      match found.trail, found.node with
      | name :: above, .file content executable =>
          if above.reverse = FileTree.programFolder then return ⟨name, args⟩
          else if !executable then .error .accessDenied
          else
            match program? content with
            | none => .error .notExecutable
            | some (program, argument) =>
                atPath root folder files program
                  (program :: argument ++ path :: args.drop 1)
      | _, _ => .error .accessDenied

/-- The folders in which programs are looked for, unless others are named. -/
def standardPath : Text :=
  "/usr/local/sbin:/usr/local/bin:/usr/sbin:/usr/bin:/sbin:/bin".toList

/-- The path of the first file of a name in one of several folders. -/
def search (root : FileTree) (folder : List Text) (name : Text) (e : FileError) :
    List Text → Except FileError Text
  | [] => .error e
  | place :: places =>
      let path := if place = [] then name else place ++ '/' :: name
      match FileTree.locate root folder (gather path) with
      | .ok ⟨_, .file _ _⟩ => .ok path
      | .ok _ => search root folder name .accessDenied places
      | .error .notFound => search root folder name e places
      | .error .notFolder => search root folder name e places
      | .error e => search root folder name e places

/-- The path that a name of a program leads to: a name with a slash is a path, others are looked for
in the folders of a row. -/
def pathOf (root : FileTree) (folder : List Text) (places name : Text) : Except FileError Text :=
  if '/' ∈ name then .ok name
  else search root folder name .notFound (pieces ':' places)

def shells : List Text :=
  ["sh", "dash"].map String.toList

/-- A shell that runs the file at a path, which names no program. -/
def byShell (path : Text) (args : List Text) : Started :=
  ⟨"sh".toList, "/bin/sh".toList :: path :: args.drop 1⟩

/-- What a path leads to, where a file that names no program is run by the shell. -/
def orShell (root : FileTree) (folder : List Text) (path : Text) (args : List Text) :
    Except FileError Started :=
  match atPath root folder maxFiles path args with
  | .error .notExecutable => .ok (byShell path args)
  | result => result

/-- The status of a process in which a program could not be started. -/
def failure (e : FileError) : Nat :=
  if e ∈ [.notFound, .notFolder, .nameTooLong, .tooManyLinks] then 127 else 126

/-- The variables that are handed on to programs, as lines. -/
def environment (m : Machine) : Text :=
  m.values.flatMap fun (name, v) =>
    match v.exported, v.value with
    | true, some t => name ++ '=' :: t ++ ['\n']
    | _, _ => []

/-- Arguments of which the first one asks for splitting what is behind it at blanks. -/
def splitFirst : List Text → List Text
  | ('-' :: 'S' :: t) :: args => (pieces ' ' t).filter (· ≠ []) ++ args
  | args => args

/-- Runs an installed program in a process that is there already.  One of them sets variables and
starts another program, whose name is an argument of its own. -/
def run (exec : Exec) : Nat → Started → Act Unit
  | 0, _ => Act.ended 126
  | steps + 1, s => do
      let args := s.args.drop 1
      if s.program ∈ shells then Invocation.run exec (s.args.headD s.program) args
      else if s.program = "env".toList then
        let (assignments, command) := (splitFirst args).span fun arg => '=' ∈ arg
        for arg in assignments do
          let name := arg.takeWhile (· ≠ '=')
          let value := arg.drop (name.length + 1)
          modify fun m => m.put name { value := some value, exported := true }
        match command with
        | [] => Act.ended (← Utility.print (s.args.headD s.program) (environment (← get)))
        | name :: _ => do
            let m ← get
            let places := (m.value? "PATH".toList).getD standardPath
            let found := do
              let path ← pathOf m.world.tree m.folder places name
              orShell m.world.tree m.folder path command
            match found with
            | .ok s => run exec steps s
            | .error e => do
                let quoted := spread "‘".toList ++ name ++ spread "’".toList
                let colon := ": ".toList
                Act.report (s.args.headD [] ++ colon ++ quoted ++ colon ++ spread e.cause.1)
                Act.ended (failure e)
      else
        match Utility.all.lookup s.program with
        | none => Act.ended 0
        | some program => do
            modify fun m => { m with traps := m.traps.filter (·.2 = []), command := none }
            Act.ended (← program (s.args.headD s.program) args)

end Started

end Conformance.Shell
