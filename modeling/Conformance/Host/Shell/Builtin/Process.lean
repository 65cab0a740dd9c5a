import Conformance.Host.Shell.Builtin.Output
import Conformance.Host.Shell.Script
import Conformance.Host.Shell.Variable

/-!
The built-in commands about processes and signals.
-/

namespace Conformance.Shell.Builtin

def killUsage : Text :=
  "Usage: kill [-s sigspec | -signum | -sigspec] [pid | job]... or\nkill -l [exitstatus]".toList

/-- Sends a signal to a process; tells whether there is one of that number.  Number zero stands for
all processes. -/
def sendTo (signal target : Nat) : Act Bool := do
  let m ← get
  let reached := m.world.alive.filter fun process => target = 0 || process = target
  let others := (reached.filter (· ≠ m.own)).map fun process => (process, signal)
  Act.world fun w => ((), { w with signals := w.signals ++ others })
  if m.own ∈ reached then Act.receive signal
  return !reached.isEmpty

/-- The job that an argument names: by its number, or as the current one or the one before.  Jobs
have no names, so only an empty part of a name is found in them. -/
def namedJob (arg : Text) : Act Job := do
  let m ← get
  let find := fun (place : Nat) (cause : String) =>
    match m.jobs[place]? with
    | some j => return j
    | none => Act.fail cause.toList
  match arg with
  | ['%'] => find 0 "No current job"
  | ['%', '+'] => find 0 "No current job"
  | ['%', '%'] => find 0 "No current job"
  | ['%', '-'] => find 1 "No previous job"
  | ['%', '?'] =>
      match m.jobs with
      | [j] => return j
      | [] => Act.fail ("No such job: ".toList ++ arg)
      | _ => Act.fail (arg ++ ": ambiguous".toList)
  | arg =>
      match (Numeral.value? (arg.drop 1)).bind m.job? with
      | some j => return j
      | none => Act.fail ("No such job: ".toList ++ arg)

/-- The process that an argument names.  Jobs have no groups of processes that a signal could be
sent to. -/
def target (arg : Text) : Act (Option Nat) := do
  match arg with
  | '%' :: _ => do
      let _ ← namedJob arg
      return none
  | '-' :: t => return if (← Act.count t) = 0 then some 0 else none
  | t => return some (← Act.count t)

/-- Sends a signal to the processes that arguments name; the status tells whether all were found. -/
def sendAll (signal : Nat) (args : List Text) : Act Nat := do
  let mut status := 0
  for arg in args do
    let found ←
      match ← target arg with
      | some n => sendTo signal n
      | none => pure false
    if !found then
      Act.complain "No such process\n".toList
      status := 1
  return status

/-- Prints the name of a signal, or all names. -/
def listSignals : List Text → Act Nat
  | [] => print "kill" ("0\n".toList ++ Signal.names.flatMap fun name => name ++ ['\n']) 0
  | arg :: _ => do
      match Signal.name? (← Act.count arg) with
      | some name => print "kill" (name ++ ['\n']) 0
      | none => Act.fail ("invalid signal number or exit status: ".toList ++ arg)

/-- The number of the signal that an option of kill names. -/
def signalOption (arg : Text) : Act Nat := do
  match Signal.number? arg with
  | some n => return n
  | none => Act.fail ("invalid signal number or name: ".toList ++ arg)

/-- The options of kill: the signal, and whether names are asked for; and the arguments behind
them. -/
def killOptions (args : List Text) : Act (Option Nat × Bool × List Text) := do
  let look := fun letter arg => do
    if letter = 's' then
      let _ ← signalOption arg
  let (options, rest) ← Act.optionsThrough [('l', false), ('s', true)] look args
  let signals ← (options.filter (·.1 = 's')).mapM fun option => signalOption option.2
  return (signals.getLast?, options.any (·.1 = 'l'), rest)

/-- Sends a signal to processes, or tells the names of signals. -/
def kill (args : List Text) : Act Nat := do
  let (signal, lists, rest) ←
    match args with
    | [] => Act.fail killUsage
    | ('-' :: word) :: rest =>
        match Signal.number? word with
        | some n => pure (some n, false, rest)
        | none => killOptions args
    | args => pure (none, false, args)
  if lists then
    if signal.isSome && !rest.isEmpty then Act.fail killUsage else listSignals rest
  else if rest.isEmpty then Act.fail killUsage
  else sendAll (signal.getD Signal.terminate) rest

/-- The commands for signals as the shell reads them. -/
def trapListing (m : Machine) : Text :=
  let sorted := m.traps.mergeSort fun a b => a.1 ≤ b.1
  sorted.flatMap fun (n, t) =>
    "trap -- ".toList ++ singleQuoted t ++ ' ' :: Signal.trapName n ++ ['\n']

/-- Sets the command for what is named; tells whether all names are known. -/
def setTraps (command : Option Text) : List Text → Act Nat
  | [] => return 0
  | name :: rest => do
      match Signal.trapped? name with
      | none => do
          Act.report ("trap: ".toList ++ name ++ ": bad trap".toList)
          return 1
      | some n => do
          modify fun m =>
            let others := m.traps.filter (·.1 ≠ n)
            { m with traps := match command with
                | some t => (n, t) :: others
                | none => others }
          setTraps command rest

/-- Sets commands for signals and for the end of the shell, or prints them. -/
def trap (args : List Text) : Act Nat := do
  match ← Act.operands args with
  | [] => print "trap" (trapListing (← get)) 0
  | [name] => setTraps none [name]
  | word :: names =>
      if (Signal.numbered? word).isSome then setTraps none (word :: names)
      else setTraps (if word = ['-'] then none else some word) names

/-- Tells that a signal has ended a process. -/
def tell (e : Ending) : Act Unit := do
  match e with
  | .exited _ => return
  | .killed signal => if Signal.isTold signal then Act.report (Signal.description signal)

/-- The job that an argument names, if there is one. -/
def waitedJob? (arg : Text) : Act (Option Job) := do
  if arg.head? = some '%' then return some (← namedJob arg)
  else
    let process ← Act.count arg
    return (← get).jobs.find? (·.process = process)

/-- Waits for a job; gives its status.  It is told if a signal ends it only now. -/
def waitFor (j : Job) : Act Nat := do
  modify fun m =>
    let m := m.settled (· = j.process)
    { m with jobs := m.jobs.map fun other =>
        if other.number = j.number then { other with waited := true } else other }
  Act.receiveAll
  match ((← get).job? j.number).bind Job.ending with
  | none => return 0
  | some ending => do
      if j.ending.isNone then tell ending
      return ending.status

/-- Waits for jobs, or for all of them; the status is that of the last one that there is. -/
def wait (args : List Text) : Act Nat := do
  match ← Act.operands args with
  | [] => do
      modify fun m =>
        let m := m.settled fun _ => true
        { m with jobs := m.jobs.map fun j => { j with waited := true } }
      Act.receiveAll
      return 0
  | args => do
      let mut status := 127
      for arg in args do
        match ← waitedJob? arg with
        | some j => status := ← waitFor j
        | none => pure ()
      return status

/-- The letters for the rights of one kind of users. -/
def rights (n : Nat) : Text :=
  (if n / 4 % 2 = 0 then ['r'] else []) ++ (if n / 2 % 2 = 0 then ['w'] else []) ++
    (if n % 2 = 0 then ['x'] else [])

/-- Prints or sets the rights that new files do not get. -/
def umask (args : List Text) : Act Nat := do
  let (options, rest) ← Act.options [('S', false)] args
  let mask := (← get).mask
  match rest with
  | [] =>
      if options.isEmpty then
        let digits := Nat.toDigits 8 mask
        print "umask" (List.replicate (4 - digits.length) '0' ++ digits ++ ['\n']) 0
      else
        print "umask" ("u=".toList ++ rights (mask / 64) ++ ",g=".toList ++ rights (mask / 8) ++
          ",o=".toList ++ rights mask ++ ['\n']) 0
  | arg :: _ =>
      if arg.head?.any Char.isDigit then
        match Integer.digits 8 0 arg with
        | (n, []) => do
            modify fun m => { m with mask := n % 512 }
            return 0
        | _ => Act.refuseCount arg
      else Act.fail ("Illegal mode: ".toList ++ arg)

end Conformance.Shell.Builtin
