import Conformance.Host.Shell.Command
import Conformance.Host.Shell.Integer
import Conformance.Host.Tree

/-!
The state of a running shell: what it shares with other processes, and what is its own.
-/

namespace Conformance.Shell

/-- Bytes as a text with one character for each. -/
def ofBytes (bytes : List UInt8) : Text :=
  bytes.map fun b => Char.ofNat b.toNat

/-- The bytes of a text with one character for each. -/
def toBytes (t : Text) : List UInt8 :=
  t.map fun c => UInt8.ofNat c.toNat

/-- A text with one character for each byte of it. -/
def spread (t : Text) : Text :=
  ofBytes (Text.toUtf8 t)

/-- The text whose bytes are the characters of a text. -/
def gather (t : Text) : Text :=
  Text.ofUtf8 (toBytes t)

/-- What an open file may be used for. -/
structure Access where
  reads : Bool
  writes : Bool
  appends : Bool
deriving DecidableEq, Repr

/-- The access of what is only read, and that of what is only written. -/
def Access.toRead : Access := ⟨true, false, false⟩

@[inherit_doc Access.toRead] def Access.toWrite : Access := ⟨false, true, false⟩

/-- The path of a folder from the root on. -/
def pathOf (folder : List Text) : Text :=
  if folder = [] then ['/'] else folder.flatMap fun name => '/' :: spread name

/-- How much more a pipe takes: texts that are written, and characters in them. -/
structure Room where
  texts : Nat
  characters : Nat
deriving DecidableEq, Repr

def Room.fits (room : Room) (t : Text) : Bool :=
  0 < room.texts && t.length ≤ room.characters

/-- The room that is left behind a text. -/
def Room.behind (room : Room) (t : Text) : Room :=
  { texts := room.texts - 1, characters := room.characters - t.length }

inductive Stream where
  /-- Text that was written, the last part first. -/
  | collected (parts : List Text)
  /-- Text that was written to a pipe, and how much more it takes. -/
  | piped (parts : List Text) (room : Room)
  /-- Text that is there to be read. -/
  | given (rest : Text)
  /-- A file by the names that lead to it, and the place in it. -/
  | file (names : List Text) (offset : Nat) (access : Access)
  /-- A device, which gives nothing. -/
  | device (d : Device) (access : Access)

structure World where
  tree : FileTree
  streams : Array Stream := #[]
  /-- The number of the process that was started last. -/
  process : Nat
  /-- The processes that have not ended. -/
  alive : List Nat
  /-- The signals on their way to processes. -/
  signals : List (Nat × Nat) := []

structure Variable where
  value : Option Text := none
  exported : Bool := false
  fixed : Bool := false
deriving DecidableEq, Repr

inductive Ending where
  | exited (status : Nat)
  | killed (signal : Nat)
deriving DecidableEq, Repr

def Ending.status : Ending → Nat
  | .exited status => status
  | .killed signal => 128 + signal

/-- What a process has done: how it has ended, and whether it has let time pass. -/
structure Ended where
  ending : Ending
  slept : Bool
deriving DecidableEq, Repr

/-- A process that the shell does not wait for unless it is told to. -/
structure Job where
  number : Nat
  process : Nat
  /-- The ending, as soon as the shell knows it. -/
  ending : Option Ending := none
  waited : Bool := false
deriving DecidableEq, Repr

/-- Why a command does not lead to the next one. -/
inductive Stop where
  /-- The shell ends with its status. -/
  | finished
  /-- The shell ends because of an error. -/
  | failed
  | killed (signal : Nat)
  | leave (loops : Nat)
  | again (loops : Nat)
  /-- The function or the script ends. -/
  | back
deriving DecidableEq, Repr

structure Machine where
  world : World
  name : Text
  args : List Text := []
  folder : List Text := FileTree.home
  /-- The path by which the current folder was gone to, unless it is the one without links. -/
  pathBy : Option Text := none
  values : List (Text × Variable) := []
  /-- For each function that runs, the variables that get their old values back after it. -/
  locals : List (List (Text × Option Variable)) := []
  functions : List (Text × Command) := []
  documents : List (Nat × Word) := []
  /-- The stream of each descriptor. -/
  descriptors : List (Nat × Nat) := []
  options : List Char := []
  status : Nat := 0
  /-- The status of the last command whose output was taken. -/
  taken : Nat := 0
  /-- The count of loops around the current command, and that of functions. -/
  depth : Nat := 0
  calls : Nat := 0
  /-- The line that error messages show, and the last one that was read. -/
  line : Nat := 0
  lastLine : Nat := 1
  /-- The built-in command that runs. -/
  command : Option Text := none
  /-- The number of the process that runs the script. -/
  process : Nat
  /-- The number of this process. -/
  own : Nat
  /-- The jobs of the shell, the last one first, and the last process that it did not wait for. -/
  jobs : List Job := []
  background : Option Nat := none
  /-- What the processes of jobs will do that have done nothing yet, the first one first. -/
  delayed : List (Nat × (World → World × Ended)) := []
  slept : Bool := false
  /-- The commands for signals; number zero stands for the end of the shell. -/
  traps : List (Nat × Text) := []
  /-- The signals that do nothing to the process, whatever its commands for them are. -/
  deaf : List Nat := []
  /-- The signals that have come and wait for their commands. -/
  arrived : List Nat := []
  /-- The argument at which options are read on, and the place in the one before it if that holds
  more. -/
  optionIndex : Nat := 1
  optionPlace : Option Nat := none
  mask : Nat := 18
  /-- The status with which the shell is about to end. -/
  leaving : Option Nat := none

abbrev Act := EStateM Stop Machine

structure Mode where
  /-- Is the status looked at, so that an error is no reason to stop? -/
  tested : Bool := false
  /-- Does the process end behind the command? -/
  last : Bool := false
deriving DecidableEq, Repr

abbrev Exec := Mode → Command → Act Unit

namespace Machine

def has (m : Machine) (option : Char) : Bool :=
  option ∈ m.options

/-- The value of a variable, if it has one. -/
def value? (m : Machine) (name : Text) : Option Text :=
  (m.values.lookup name).bind Variable.value

def separators (m : Machine) : Text :=
  (m.value? "IFS".toList).getD " \t\n".toList

def put (m : Machine) (name : Text) (v : Variable) : Machine :=
  { m with values := (name, v) :: m.values.filter (·.1 ≠ name) }

/-- Is there a command for a signal or for the end of the shell? -/
def hasTraps (m : Machine) : Bool :=
  m.traps.any fun trap => trap.2 ≠ []

def job? (m : Machine) (number : Nat) : Option Job :=
  m.jobs.find? (·.number = number)

/-- The path of the current folder without links. -/
def folderPath (m : Machine) : Text :=
  pathOf m.folder

def path (m : Machine) : Text :=
  m.pathBy.getD m.folderPath

/-- The number of the first process of the shell. -/
def processText (m : Machine) : Text := Numeral.ofNat m.process

end Machine

namespace Act

def ended (status : Nat) : Act Unit :=
  modify fun m => { m with status := status }

def world {α : Type} (f : World → α × World) : Act α :=
  modifyGet fun m =>
    let w := m.world
    let m := { m with world := { w with tree := .empty, streams := #[] } }
    let (a, w) := f w
    (a, { m with world := w })

end Act

end Conformance.Shell
