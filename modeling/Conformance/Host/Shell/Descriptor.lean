import Conformance.Host.Shell.Machine
import Conformance.Host.Shell.Signal

/-!
Descriptors: opening files, writing and reading.
-/

namespace Conformance.Shell

namespace World

def content (w : World) (names : List Text) : ByteArray :=
  match FileTree.follow 0 [] w.tree names with
  | .ok found => (found.node.content.toOption).getD .empty
  | .error _ => .empty

/-- The world with a change of the content of a file, which is made if it is not there. -/
def alterContent (w : World) (names : List Text) (change : ByteArray → ByteArray) : World :=
  let change : Option FileTree → FileTree := fun
    | some (.file old executable) => .file (change old) executable
    | _ => .file (change .empty) false
  { w with tree := FileTree.alterAt change names (some w.tree) }

/-- Content with bytes written over it from a place on; zeros fill up what is missing before it. -/
def overwritten (place : Nat) (bytes old : ByteArray) : ByteArray :=
  if place = old.size then old ++ bytes
  else
    let missing : ByteArray := ⟨Array.replicate (place - old.size) 0⟩
    old.extract 0 place ++ missing ++ bytes ++ old.extract (place + bytes.size) old.size

def opened (w : World) (s : Stream) : Nat × World :=
  (w.streams.size, { w with streams := w.streams.push s })

/-- Writes to a stream; tells whether that was possible. -/
def write (w : World) (i : Nat) (t : Text) : Bool × World :=
  match w.streams[i]? with
  | some (.collected _) =>
      (true, { w with streams := w.streams.modify i fun
        | .collected parts => .collected (t :: parts)
        | s => s })
  | some (.file names offset access) =>
      if !access.writes then (false, w)
      else
        let bytes : ByteArray := ⟨(toBytes t).toArray⟩
        let place := if access.appends then (w.content names).size else offset
        let w := w.alterContent names (overwritten place bytes)
        (true, { w with streams := w.streams.set! i (.file names (place + bytes.size) access) })
  | some (.piped _ room) =>
      if room.fits t then
        (true, { w with streams := w.streams.modify i fun
          | .piped parts room => .piped (t :: parts) (room.behind t)
          | s => s })
      else (false, w)
  | some (.device d access) => (access.writes && d = .nothing, w)
  | _ => (false, w)

/-- What a stream gives to read next, up to a count of characters. -/
def ahead? (w : World) (i size : Nat) : Option Text :=
  match w.streams[i]? with
  | some (.given rest) => some (rest.take size)
  | some (.file names offset access) =>
      if access.reads then some (ofBytes ((w.content names).extract offset (offset + size)).toList)
      else none
  | some (.device _ access) => if access.reads then some [] else none
  | _ => none

/-- What is left to read from a stream. -/
def rest? (w : World) (i : Nat) : Option Text :=
  match w.streams[i]? with
  | some (.given rest) => some rest
  | some (.file names _ _) => w.ahead? i (w.content names).size
  | _ => w.ahead? i 0

/-- Leaves out characters that were read from a stream. -/
def skip (w : World) (i n : Nat) : World :=
  { w with streams := w.streams.modify i fun
      | .given rest => .given (rest.drop n)
      | .file names offset access => .file names (offset + n) access
      | s => s }

/-- What was written to a stream that collects it. -/
def collected (w : World) (i : Nat) : Text :=
  match w.streams[i]? with
  | some (.collected parts) => parts.reverse.flatten
  | some (.piped parts _) => parts.reverse.flatten
  | _ => []

/-- Is the stream a pipe that takes no more of a text? -/
def isFull (w : World) (i : Nat) (t : Text) : Bool :=
  match w.streams[i]? with
  | some (.piped _ room) => !room.fits t
  | _ => false

end World

namespace Act

def stream? (descriptor : Nat) : Act (Option Nat) :=
  return (← get).descriptors.lookup descriptor

def connect (descriptor : Nat) (stream : Option Nat) : Act Unit :=
  modify fun m =>
    let others := m.descriptors.filter (·.1 ≠ descriptor)
    { m with descriptors := match stream with
        | some i => (descriptor, i) :: others
        | none => others }

/-- Writes to a descriptor; tells whether that was possible.  A process that writes to a pipe whose
reader has ended is ended by a signal, unless it handles that. -/
def write (descriptor : Nat) (t : Text) : Act Bool := do
  if t = [] then return true
  match ← stream? descriptor with
  | none => return false
  | some i => do
      let m ← get
      let isHandled := Signal.pipe ∈ m.deaf || (m.traps.lookup Signal.pipe).isSome
      if m.world.isFull i t && !isHandled then
        throw (.killed Signal.pipe)
      world (·.write i t)

/-- Prints a text that stands on a line of its own to the error stream. -/
def report (t : Text) : Act Unit := do
  let _ ← write 2 (t ++ ['\n'])

/-- An error message of the shell about the current line. -/
def complain (t : Text) : Act Unit := do
  let m ← get
  let command :=
    match m.command with
    | some c => c ++ ": ".toList
    | none => []
  report (m.name ++ ": ".toList ++ Numeral.ofNat m.line ++ ": ".toList ++ command ++ t)

def fail {α : Type} (t : Text) : Act α := do
  complain t
  ended 2
  throw .failed

/-- What is wrong when a file cannot be used.  A file that is not there is named for what was
wanted. -/
def cause (creates : Bool) (e : FileError) : Text :=
  match e with
  | .notFound => if creates then "Directory nonexistent".toList else "No such file".toList
  | .notFolder => if creates then "Directory nonexistent".toList else "No such file".toList
  | e => e.cause.1

/-- What is wrong when a program cannot be started. -/
def programCause (e : FileError) : Text :=
  if e = .notFound ∨ e = .notFolder then "not found".toList else e.cause.1

def locate (path : Text) : Act (Except FileError FileTree.Found) := do
  let m ← get
  return FileTree.locate m.world.tree m.folder (gather path)

/-- What a path leads to in the end. -/
inductive Target where
  | node (found : FileTree.Found)
  | stream (number : Nat)

/-- What stands behind a node: a device may stand for what a descriptor is connected to. -/
def resolved (found : FileTree.Found) : Act (Except FileError Target) := do
  match found.node with
  | .device (.descriptor n) =>
      match ← stream? n with
      | none => return .error .notFound
      | some i =>
          let w := (← get).world
          match w.streams[i]? with
          | some (.file names _ _) => return (FileTree.follow 0 [] w.tree names).map Target.node
          | some (.device d _) => return .ok (.node ⟨[], .device d⟩)
          | _ => return .ok (.stream i)
  | _ => return .ok (.node found)

/-- What a path leads to, behind devices that stand for descriptors. -/
def target (path : Text) : Act (Except FileError Target) := do
  match ← locate path with
  | .ok found => resolved found
  | .error e => return .error e

/-- Is the last name of a path that of a link?  The devices that stand for descriptors count as
links. -/
def isLink (path : Text) : Act Bool := do
  let (before, name) := FileTree.splitLast path
  match ← locate (if before = [] then ['.'] else before) with
  | .ok ⟨_, .folder _ entries⟩ =>
      match entries.lookup (gather name) with
      | some (.link _) => return true
      | some (.device (.descriptor n)) => return (← stream? n).isSome
      | _ => return false
  | _ => return false

/-- Opens what is there.  Nothing is read from where output is collected. -/
def openTarget (access : Access) (empties : Bool) : Target → Act (Except FileError Nat)
  | .stream i => do
      match access.writes, (← get).world.streams[i]? with
      | false, some (.collected _) => return .ok (← world (·.opened (.device .nothing access)))
      | false, some (.piped _ _) => return .ok (← world (·.opened (.device .nothing access)))
      | _, _ => return .ok i
  | .node found => do
      let names := found.trail.reverse
      match found.node with
      | .device .terminal => return .error .notConnected
      | .device d => return .ok (← world (·.opened (.device d access)))
      | .folder _ _ =>
          if access.writes then return .error .isFolder
          else return .ok (← world (·.opened (.file names 0 access)))
      | .file _ _ => do
          if empties then world fun w => ((), w.alterContent names fun _ => .empty)
          return .ok (← world (·.opened (.file names 0 access)))
      | .link _ => return .error .notFound

/-- Makes a file at a path that leads nowhere, and opens it.  The folder of descriptors takes no
files. -/
def openNew (path : Text) (access : Access) : Act (Except FileError Nat) := do
  let m ← get
  match FileTree.placeOf m.world.tree FileTree.maxLinks m.folder (gather path) with
  | .error e => return .error e
  | .ok (folder, name) =>
      if folder = FileTree.descriptorFolder then return .error .notFound
      else
        let names := folder ++ [name]
        world fun w => ((), w.alterContent names fun _ => .empty)
        return .ok (← world (·.opened (.file names 0 access)))

/-- Opens a file, which is created if it is not there and may be. -/
def openPath (path : Text) (access : Access) (creates empties : Bool) :
    Act (Except FileError Nat) := do
  match ← locate path with
  | .ok found =>
      match ← resolved found with
      | .ok t => openTarget access empties t
      | .error e => return .error e
  | .error .notFound => if creates then openNew path access else return .error .notFound
  | .error e => return .error e

end Act

end Conformance.Shell
