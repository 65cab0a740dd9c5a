import Conformance.Host.Shell.Descriptor
import Conformance.Host.Shell.Reading
import Conformance.Host.Shell.Signal

/-!
Running texts as scripts, line by line, and the commands that are run when signals come or the shell
ends.
-/

namespace Conformance.Shell

/-- Where more of a script comes from when its text is used up. -/
inductive Supply where
  | nothing
  | stream (number : Nat)
  /-- What standard input is connected to at that time. -/
  | input
deriving DecidableEq, Repr

/-- The stream that gives more of a script. -/
def Supply.stream? (m : Machine) : Supply → Option Nat
  | .nothing => none
  | .stream number => some number
  | .input => m.descriptors.lookup 0

/-- An attempt to read a line: the script before it, and the commands or what is wrong with the
script behind it. -/
structure Attempt where
  before : Source
  result : EStateM.Result ReadingError Source (Option Command)

namespace Attempt

/-- Reads a line from a script, of which there may be more. -/
def of (m : Machine) (s : Source) (more : Text) : Attempt :=
  let s := { s with
    documents := []
    next := m.documents.length
    exhausted := false }
  let s := if more.isEmpty then s else { s with
    rest := s.rest ++ more
    bound := s.bound + more.length }
  { before := s, result := Reader.line s }

def after (a : Attempt) : Source :=
  match a.result with
  | .ok _ s => s
  | .error _ s => s

def size (a : Attempt) : Nat :=
  a.before.rest.length - a.after.rest.length

/-- The text of the line, up to a line end even if what is wrong stands before that. -/
def text (a : Attempt) : Text :=
  let read := a.before.rest.take a.size
  if read.getLast? = some '\n' then read
  else
    let line := a.after.rest.takeWhile (· ≠ '\n')
    read ++ line ++ (a.after.rest.drop line.length).take 1

/-- The attempt without a count of characters at the end of the script. -/
def shortened (a : Attempt) (n : Nat) : Attempt :=
  let short := fun (s : Source) => { s with rest := s.rest.take (s.rest.length - n) }
  { before := short a.before
    result := match a.result with
      | .ok c s => .ok c (short s)
      | .error e s => .error e (short s) }

end Attempt

namespace Script

/-- The size of the blocks in which a script is taken from a stream. -/
def blockSize : Nat := 8192

/-- The characters of a text that count in a script: all but zero characters. -/
def counting (t : Text) : Text :=
  t.filter (· ≠ '\x00')

/-- The size of the blocks at the start of a text that hold a number of characters that count.  Each
step leaves out a block. -/
def blocksFor : Nat → Nat → Text → Nat
  | 0, _, _ => 0
  | steps + 1, needed, t =>
      if needed = 0 then 0
      else
        let block := t.take blockSize
        block.length + blocksFor steps (needed - (counting block).length) (t.drop blockSize)

/-- Reads the next line of a script.  Blocks are taken from its supply as long as the end of the
text is noticed. -/
def readLine (supply : Supply) (s : Source) : Act Attempt := do
  let m ← get
  let there := Attempt.of m s []
  match if there.after.exhausted then supply.stream? m else none with
  | none => return there
  | some i =>
      let block := (m.world.ahead? i blockSize).getD []
      let near := Attempt.of m s (counting block)
      if !near.after.exhausted || block.length < blockSize then
        Act.world fun w => ((), w.skip i block.length)
        return near
      let all := (m.world.rest? i).getD []
      let whole := Attempt.of m s (counting all)
      if whole.after.exhausted then
        Act.world fun w => ((), w.skip i all.length)
        return whole
      let needed := whole.size - s.rest.length
      let size := blocksFor (all.length / blockSize + 1) needed all
      Act.world fun w => ((), w.skip i size)
      return whole.shortened (counting (all.drop size)).length

end Script

/-- A shell that has failed to read a script. -/
def Machine.misread (m : Machine) (e : ReadingError) : EStateM.Result Stop Machine Bool :=
  let report : Act Bool := do
    modify fun m => { m with line := e.line }
    Act.fail ("Syntax error: ".toList ++ e.cause)
  report m

/-- Shows a line that was read, if lines are shown. -/
def Attempt.show (a : Attempt) : Act Unit := do
  if (← get).has 'v' then
    let _ ← Act.write 2 a.text

/-- Runs what is left of a script; tells whether any command has run.  Each step reads a line.
Where `verbose` holds, lines may be shown.  Behind the end of the text, its supply may give more, as
long as commands stand before it. -/
def runFrom (exec : Exec) (mode : Mode) (verbose : Bool) (steps : Nat) (ran : Bool)
    (supply : Supply) (s : Source) (m : Machine) : EStateM.Result Stop Machine Bool :=
  match steps with
  | 0 => .ok ran m
  | steps + 1 =>
      let next : Act Attempt := do
        let line ← Script.readLine supply s
        if verbose then line.show
        return line
      match next m with
      | .error stop m => .error stop m
      | .ok line m =>
          match line.result with
          | .error e _ => m.misread e
          | .ok c read =>
              let m := { m with
                documents := read.documents ++ m.documents
                lastLine := read.line }
              let ended := read.given matches some .ended
              match c with
              | none =>
                  if ended then .ok ran m else runFrom exec mode verbose steps ran supply read m
              | some c =>
                  match exec { mode with last := mode.last && ended } c m with
                  | .error e m => .error e m
                  | .ok _ m =>
                      if ended && supply = .nothing then .ok true m
                      else runFrom exec mode verbose steps true supply { read with given := none } m

namespace Act

/-- Runs a script up to its end; the status is zero if there is no command in it. -/
def runSource (exec : Exec) (mode : Mode) (verbose : Bool) (steps : Nat) (supply : Supply)
    (s : Source) : Act Unit := fun m =>
  let last := m.lastLine
  match runFrom exec mode verbose steps false supply s m with
  | .ok ran m => .ok () { m with lastLine := last, status := if ran then m.status else 0 }
  | .error stop m => .error stop { m with lastLine := last }

def runText (exec : Exec) (mode : Mode) (t : Text) : Act Unit :=
  runSource exec mode false (t.length + 2) .nothing { rest := t }

def maxLines : Nat := 4294967296

/-- Runs a script that comes from a supply. -/
def runSupply (exec : Exec) (supply : Supply) : Act Unit :=
  runSource exec {} true maxLines supply { rest := [] }

/-- Runs the command for a signal that has come.  The status stays what it was, unless the command
ends a function with one of its own. -/
def runTrap (exec : Exec) (signal : Nat) : Act Unit := fun m =>
  let status := m.status
  let leaving := m.leaving
  let kept := fun (m : Machine) => { m with status := status, leaving := leaving }
  match m.traps.lookup signal with
  | none => .ok () m
  | some t =>
      match runText exec {} t { m with leaving := some status } with
      | .ok _ m => .ok () (kept m)
      | .error (.leave n) m => .error (.leave n) (kept m)
      | .error (.again n) m => .error (.again n) (kept m)
      | .error .back m => .error .back { m with leaving := leaving }
      | .error stop m => .error stop m

/-- Runs the commands for the signals that have come, in the order of their numbers. -/
def runTraps (exec : Exec) : Act Unit := do
  let m ← get
  if m.arrived.isEmpty then return
  set { m with arrived := [] }
  for signal in m.arrived.mergeSort do
    runTrap exec signal

end Act

/-- The ending with the status of the shell, of which the last eight bits count. -/
def Machine.exited (m : Machine) : Ending :=
  .exited (m.status % 256)

/-- The world behind the end of a process. -/
def World.without (w : World) (process : Nat) : World :=
  { w with
    alive := w.alive.filter (· ≠ process)
    signals := w.signals.filter (·.1 ≠ process) }

/-- The state after the processes of jobs have run that have done nothing yet.  Those that let time
pass have still done nothing, unless they have to end. -/
def Machine.settled (mustEnd : Nat → Bool) (m : Machine) : Machine :=
  m.delayed.foldl (fun m (process, run) =>
    let (world, e) := run m.world
    if e.slept && !mustEnd process then { m with delayed := m.delayed ++ [(process, run)] }
    else
      let jobs := m.jobs.map fun (j : Job) =>
        if j.process = process then { j with ending := some e.ending } else j
      { m with world := world.without process, jobs := jobs }) { m with delayed := [] }

/-- The state in which the place of a new job is free, and the number of that place.  It is the
first one that is free, or that of a job whose end the shell was told about. -/
def Machine.jobPlace (m : Machine) : Nat × Machine :=
  let numbers := (List.range (m.jobs.length + 1)).map (· + 1)
  let isFree := fun (number : Nat) =>
    (m.job? number).all fun j => j.waited && j.ending.isSome
  let number := (numbers.find? isFree).getD 1
  (number, { m with jobs := m.jobs.filter (·.number ≠ number) })

/-- The ending of a process after its commands.  The command for the end of the shell runs, unless a
signal ended it. -/
def Machine.finish (m : Machine) (exec : Exec) (act : Act Unit) : Ending × Machine :=
  let last := fun (m : Machine) =>
    match m.traps.lookup 0 with
    | none => (m.exited, m)
    | some t =>
        let ending := m.exited
        let inside := { m with
          traps := m.traps.filter (·.1 ≠ 0)
          leaving := some m.status
          depth := 0 }
        match Act.runText exec {} t inside with
        | .error (.killed signal) m => (.killed signal, m)
        | .error .finished m => (m.exited, m)
        | .error .failed m => (m.exited, m)
        | .error _ m => (ending, m)
        | .ok _ m => (ending, m)
  let (ending, m) :=
    match act m with
    | .ok _ m => last m
    | .error (.killed signal) m => (.killed signal, m)
    | .error _ m => last m
  (ending, m.settled fun _ => true)

namespace Act

/-- A signal reaches the process: it is ignored, waits for its command, or ends the process. -/
def receive (signal : Nat) : Act Unit := do
  let m ← get
  let command := if signal ∈ m.deaf then some [] else m.traps.lookup signal
  match if signal = 0 || Signal.isCertain signal then none else command with
  | some [] => return
  | some _ => if signal ∈ m.arrived then return else set { m with arrived := signal :: m.arrived }
  | none => if Signal.isHarmless signal then return else throw (.killed signal)

/-- The signals on their way to the process reach it. -/
def receiveAll : Act Unit := do
  let m ← get
  if m.world.signals.isEmpty then return
  let (mine, others) := m.world.signals.partition (·.1 = m.own)
  set { m with world := { m.world with signals := others } }
  for signal in mine do
    receive signal.2

/-- The state with which a process of some number starts that does part of the work of another
one. -/
def forked (m : Machine) (number : Nat) : Machine :=
  { m with
    own := number
    jobs := []
    delayed := []
    traps := m.traps.filter (·.2 = [])
    arrived := []
    slept := false }

/-- The number of a process that starts now. -/
def nextProcess : Act Nat :=
  modifyGet fun m =>
    let number := m.world.process + 1
    (number, { m with world := { m.world with
      process := number
      alive := number :: m.world.alive } })

/-- Runs commands in a process of their own, which shares the world. -/
def inProcess (exec : Exec) (act : Act Unit) : Act Ended := do
  modify fun m => (m.settled fun _ => false).jobPlace.2
  let number ← nextProcess
  let m ← get
  let outer := { m with world := { m.world with tree := .empty, streams := #[] } }
  let (ending, inner) := (forked m number).finish exec act
  set ({ outer with world := inner.world.without number }.settled fun _ => false)
  return ⟨ending, inner.slept⟩

/-- Leaves commands to a process that is not waited for.  It does nothing before the shell waits for
a process, or ends.  Signals may reach it before that. -/
def inBackground (exec : Exec) (act : Act Unit) : Act Unit := do
  let place ← modifyGet Machine.jobPlace
  let number ← nextProcess
  let m ← get
  let start := { forked m number with world := { m.world with tree := .empty, streams := #[] } }
  let run := fun (world : World) =>
    let whole : Act Unit := do
      receiveAll
      act
    let (ending, inner) := { start with world := world }.finish exec whole
    (inner.world, (⟨ending, inner.slept⟩ : Ended))
  set { m with
    jobs := { number := place, process := number } :: m.jobs
    background := some number
    delayed := m.delayed ++ [(number, run)]
    status := 0 }

end Act

end Conformance.Shell
