import Conformance.Host.Shell.Builtin
import Conformance.Host.Shell.Expansion

/-!
Running commands.  What a command does is told by one step, given a way to run the commands in it;
how deep commands may stand in each other is bounded.
-/

namespace Conformance.Shell

namespace Act

/-- Runs an action, and changes the state behind it, however it ends. -/
def andThen (act : Act Unit) (change : Machine → Machine) : Act Unit := fun m =>
  match act m with
  | .ok _ m => .ok () (change m)
  | .error stop m => .error stop (change m)

/-- What the process does behind a process that did a command for it.  If that was the last command,
the process ends like it. -/
def joined (mode : Mode) (e : Ended) : Act Unit := do
  let m ← get
  set { m with slept := m.slept || e.slept, status := e.ending.status }
  receiveAll
  match e.ending with
  | .exited _ => return
  | .killed signal =>
      if mode.last && !m.hasTraps then throw (.killed signal) else Builtin.tell e.ending

def outputOf (exec : Exec) : Option Command → Act Text
  | none => return []
  | some c => do
      let i ← world (·.opened (.collected []))
      let e ← inProcess exec do
        connect 1 (some i)
        exec { last := true } c
      modify fun m => { m with taken := e.ending.status, slept := m.slept || e.slept }
      let t ← world fun w => (w.collected i, { w with streams := w.streams.shrink i })
      receiveAll
      Builtin.tell e.ending
      return t

def expander (exec : Exec) : Expander :=
  { output := outputOf exec, set := assign }

/-- The descriptor that a word names: none to close it. -/
def duplicated (t : Text) : Act (Option Nat) := do
  match t with
  | ['-'] => return none
  | [c] => if c.isDigit then return some (c.toNat - '0'.toNat) else misnamed
  | _ => misnamed
where
  /-- A word does not name a descriptor. -/
  misnamed : Act (Option Nat) := do
    modify fun m => { m with line := m.lastLine }
    fail "Syntax error: Bad fd number".toList

def targets (exec : Exec) (rs : List (Redirect Word)) : Act (List (Redirect Text)) :=
  rs.mapM fun r => do
    let t ← (expander exec).one r.target
    if r.way matches .duplicate _ then
      let _ ← duplicated t
    return ⟨r.descriptor, r.way, t⟩

def refuseFile (creates : Bool) (path : Text) (e : FileError) : Act Bool := do
  complain ("cannot ".toList ++ (if creates then "create " else "open ").toList ++ path ++
    ": ".toList ++ cause creates e)
  return false

/-- Connects a descriptor to a file; tells whether that was possible. -/
def toFile (descriptor : Nat) (path : Text) (access : Access) (creates empties : Bool) :
    Act Bool := do
  match ← openPath path access creates empties with
  | .ok i => do
      connect descriptor (some i)
      return true
  | .error e => refuseFile creates path e

/-- Connects a descriptor as a redirection asks; tells whether that was possible.  Where the
descriptor is kept to be connected again, it is closed first. -/
def redirected (exec : Exec) (keeps : Bool) (r : Redirect Text) : Act Bool := do
  let path := r.target
  match r.way with
  | .read => toFile r.descriptor path .toRead false false
  | .update => toFile r.descriptor path ⟨true, true, false⟩ true false
  | .overwrite => toFile r.descriptor path .toWrite true true
  | .append => toFile r.descriptor path ⟨false, true, true⟩ true false
  | .write => do
      let isCareful := (← get).has 'C'
      let isTaken ←
        match ← target path with
        | .ok t => pure (t matches .node ⟨_, .file _ _⟩)
        | .error _ => isLink path
      let isThere := (← target path).isOk
      if isCareful && isTaken then do
        complain ("cannot create ".toList ++ path ++ ": File exists".toList)
        return false
      else toFile r.descriptor path .toWrite (!(isCareful && isThere)) true
  | .duplicate _ => do
      match ← duplicated path with
      | none => do
          connect r.descriptor none
          return true
      | some d =>
          if d = r.descriptor then return true
          else
            match ← stream? d with
            | some i => do
                connect r.descriptor (some i)
                return true
            | none => do
                if keeps then connect r.descriptor none
                complain (Numeral.ofNat d ++ ": Bad file descriptor".toList)
                return false
  | .document number => do
      let word := ((← get).documents.lookup number).getD []
      let t ← (expander exec).one word
      let i ← world (·.opened (.given t))
      connect r.descriptor (some i)
      return true

/-- Connects descriptors as redirections ask; tells whether that was possible.  An error in a
document counts as one. -/
def redirectAll (exec : Exec) (keeps : Bool) : List (Redirect Text) → Act Bool
  | [] => return true
  | r :: rs => fun m =>
      match redirected exec keeps r m with
      | .ok true m => redirectAll exec keeps rs m
      | .ok false m => .ok false m
      | .error .failed m => .ok false m
      | .error stop m => .error stop m

/-- A state without the streams that were opened behind a number of others and that nothing is
connected to any more.  Processes that have done nothing yet may need all of them. -/
def trimmed (count : Nat) (m : Machine) : Machine :=
  if m.delayed.isEmpty then
    let needed := m.descriptors.foldl (fun n d => max n (d.2 + 1)) count
    let w := m.world
    { m with world := { w with streams := w.streams.shrink needed } }
  else m

/-- Does a redirection connect a descriptor to what it is connected to? -/
def isIdle (r : Redirect Text) : Bool :=
  (r.way matches .duplicate _) && r.target = Numeral.ofNat r.descriptor

/-- A state in which the descriptors of redirections are connected as they were before, when there
was a number of streams. -/
def restored (count : Nat) (before : List (Nat × Nat)) (rs : List (Redirect Text)) (m : Machine) :
    Machine :=
  let isMine := fun (d : Nat × Nat) => rs.any fun r => r.descriptor = d.1 && !isIdle r
  let descriptors := before.filter isMine ++ m.descriptors.filter fun d => !isMine d
  trimmed count { m with descriptors := descriptors }

/-- Runs an action with redirections that end behind it.  The status of redirections that are not
possible is two. -/
def within (exec : Exec) (rs : List (Redirect Text)) (act : Act Unit) : Act Unit := do
  let descriptors := (← get).descriptors
  let count := (← get).world.streams.size
  let whole : Act Unit := do
    if ← redirectAll exec true rs then act else ended 2
  whole.andThen (restored count descriptors rs)

/-- How deep calls of functions may stand in each other. -/
def maxCalls : Nat := 1000

def call (exec : Exec) (mode : Mode) (body : Command) (args : List Text) : Act Unit := fun m =>
  let (outer, depth, calls) := (m.args, m.depth, m.calls)
  let (index, place) := (m.optionIndex, m.optionPlace)
  let restore := fun (m : Machine) =>
    { m with
      args := outer, depth := depth, calls := calls, optionIndex := index, optionPlace := place }
  let inside := { m with
    args := args, depth := 0, calls := calls + 1, optionIndex := 1, optionPlace := none }
  if calls < maxCalls then
    match exec { tested := mode.tested } body inside with
    | .error .back m => .ok () (restore m)
    | .error stop m => .error stop (restore m)
    | .ok _ m => .ok () (restore m)
  else
    fail ("Maximum function recursion depth (".toList ++ Numeral.ofNat maxCalls ++
      ") reached".toList) m

/-- Runs a built-in command under its name.  An error ends the shell only where `strict` holds. -/
def builtin (exec : Exec) (mode : Mode) (strict : Bool) (name : Text) (b : Builtin)
    (args : List Text) : Act Unit := fun m =>
  let outer := m.command
  let restore := fun (m : Machine) => { m with command := outer }
  match b.run exec mode args { m with command := some name } with
  | .ok status m => .ok () { restore m with status := status }
  | .error .failed m =>
      if strict then .error .failed (restore m) else .ok () (restore m)
  | .error stop m => .error stop (restore m)

/-- Runs a program in a process of its own. -/
def program (exec : Exec) (mode : Mode) (path : Text) (args : List Text) : Act Unit := do
  let m ← get
  let e ← inProcess exec do
    match Started.orShell m.world.tree m.folder path args with
    | .ok s => Started.run exec Started.maxFiles s
    | .error e => do
        complain (args.headD [] ++ ": ".toList ++ programCause e)
        ended (Started.failure e)
        throw .finished
  joined mode e

end Act

/-- The words of a simple command: the fields that are there, and the words that are not expanded
yet. -/
structure Pending where
  fields : List Text
  words : List Word

namespace Pending

/-- Expands words until there is a field, if there is one to come. -/
def fill (x : Expander) (fields : List Text) : List Word → Act Pending
  | [] => return ⟨fields, []⟩
  | w :: words =>
      if fields.isEmpty then do fill x (← x.words w) words
      else return ⟨fields, w :: words⟩

/-- What is left behind the options of a command that looks for others, and the fields that were
used up.  It may have other options, or there may be nothing left; then there is no other command.
Each step uses up a field. -/
def behindOptions (x : Expander) : Nat → List Text → Pending → Act (Bool × List Text × Pending)
  | 0, used, p => return (false, used, p)
  | steps + 1, used, p => do
      let p ← fill x p.fields p.words
      match p.fields with
      | [] => return (false, used, p)
      | ('-' :: c :: t) :: rest =>
          if c = '-' && t = [] then do
            let next ← fill x rest p.words
            return (!next.fields.isEmpty, used ++ [['-', '-']], next)
          else if (c :: t).all (· = 'p') then
            behindOptions x steps (used ++ [('-' :: c :: t)]) ⟨rest, p.words⟩
          else return (false, used, p)
      | _ => return (true, used, p)

end Pending

structure Chosen where
  /-- All fields, and those from the name of what is run on. -/
  fields : List Text
  command : List Text
  meaning : Meaning
  /-- Is it a special command that is built in? -/
  special : Bool

namespace Act

/-- The fields of words behind a name; those that assign variables are not split. -/
def argumentsOf (x : Expander) (assigns : Bool) (words : List Word) : Act (List Text) := do
  let fields ← words.mapM fun w =>
    match if assigns then w.assignment? else none with
    | some (name, value) => return [name ++ '=' :: (← x.value value)]
    | none => x.words w
  return fields.flatten

/-- What the fields of a simple command stand for; `used` holds what stands before them.  `through`
holds behind a command that looks for others.  Each step uses up a field. -/
def choose (x : Expander) (through : Bool) (places : Option Text) (used : List Text) :
    Nat → Pending → Act Chosen
  | 0, _ => fail "too many arguments".toList
  | steps + 1, p => do
      let name := p.fields.headD []
      let finish := fun (meaning : Meaning) (assigns special : Bool) (p : Pending) => do
        let command := p.fields ++ (← argumentsOf x assigns p.words)
        return {
          fields := used ++ command
          command := command
          meaning := meaning
          special := special && !through : Chosen }
      match ← meaning (!through) Builtin.named? places name with
      | .builtin b =>
          if name = "command".toList then do
            let arguments : Pending := ⟨p.fields.drop 1, p.words⟩
            let (isFound, options, rest) ← Pending.behindOptions x steps [] arguments
            if isFound then
              let standard := options.any fun o => 'p' ∈ o
              choose x true (if standard then some Started.standardPath else places)
                (used ++ name :: options) steps rest
            else finish (.builtin b) false false ⟨name :: options ++ rest.fields, rest.words⟩
          else finish (.builtin b) b.assigns b.special p
      | meaning => finish meaning false false p

/-- How many commands that look for others may stand in a row. -/
def maxCommands : Nat := 1000

/-- Sets variables before a command; they are handed on to it, and local to it unless they stay.
Gives them as they are shown. -/
def assignAll (x : Expander) (stays exports : Bool) :
    List (Text × Word) → Act (List Text)
  | [] => return []
  | (name, word) :: rest => do
      let value ← x.value word
      if !stays then makeLocal name
      setVariable name fun v =>
        { v with value := some value, exported := v.exported || exports || !stays }
      let others ← assignAll x stays exports rest
      return (name ++ '=' :: value) :: others

def traceMark (exec : Exec) : Act Text := do
  let m ← get
  let t := (m.value? "PS4".toList).getD []
  let read := do
    let steps ← Reader.bound
    Reader.word (Reader.inWord (16 * steps)) .document
  match read { rest := t, next := m.documents.length } with
  | .error _ _ => return t
  | .ok word _ => do
      set { m with options := m.options.filter (· ≠ 'x') }
      let mark ← (expander exec).one word
      modify fun after => { after with options := m.options, status := m.status }
      return mark

/-- Shows a command on a stream, if commands are shown. -/
def trace (exec : Exec) (stream : Option Nat) (shown : List Text) : Act Unit := do
  match (← get).has 'x', stream with
  | true, some i => do
      let mark ← traceMark exec
      let _ ← world (·.write i (mark ++ joinWith ' ' shown ++ ['\n']))
  | _, _ => return

/-- Runs what the fields of a simple command stand for. -/
def perform (exec : Exec) (mode : Mode) (c : Chosen) : Act Unit := do
  let name := c.command.headD []
  let args := c.command.drop 1
  match c.meaning with
  | .builtin b => builtin exec mode c.special name b args
  | .function body => call exec mode body args
  | .program path => program exec mode path c.command
  | .unknown e => do
      complain (name ++ ": ".toList ++ programCause e)
      ended 127

def simple (exec : Exec) (mode : Mode) (line : Nat) (assignments : List (Text × Word))
    (words : List Word) (redirects : List (Redirect Word)) : Act Unit := do
  modify fun m => { m with line := line, taken := 0 }
  let x := expander exec
  let p ← Pending.fill x [] words
  let chosen ←
    if p.fields.isEmpty then pure none else some <$> choose x false none [] maxCommands p
  let rs ← targets exec redirects
  let descriptors := (← get).descriptors
  let count := (← get).world.streams.size
  let name := (chosen.bind (·.command.head?)).getD []
  let special := chosen.any (·.special)
  let isFunction := chosen.any (·.meaning matches .function _)
  let isReplacing := name = "exec".toList && chosen.any (·.meaning matches .builtin _)
  let stays := special || chosen.isNone
  let opens := isFunction || !(stays || assignments.isEmpty)
  let body : Act Unit := do
    let exports := isReplacing && chosen.any (·.command.length > 1)
    let shown ← assignAll x stays exports assignments
    trace exec (descriptors.lookup 2) (shown ++ (chosen.map Chosen.fields).getD [])
    match chosen with
    | some c => perform exec mode c
    | none => ended (← get).taken
  let guarded : Act Unit := do
    if opens then
      openLocals
      body.andThen Machine.closeLocals
    else body
  let whole : Act Unit := do
    if ← redirectAll exec true rs then guarded
    else
      ended 2
      if special then throw .failed
  if rs.isEmpty || isReplacing then whole
  else whole.andThen (restored count descriptors rs)

/-- How much a pipe takes from a process that nobody reads from: texts, and characters in them. -/
def pipeRoom : Room :=
  { texts := 262144, characters := 16777216 }

/-- Runs commands that each read what the one before prints; gives the process of the last one.
What has ended the others is told if they are waited for. -/
def piped (exec : Exec) (mode : Mode) (waited : Bool) (input : Option Nat) :
    List Command → Act Ended
  | [] => return ⟨.exited 0, false⟩
  | [c] => do
      inProcess exec do
        if input.isSome then connect 0 input
        exec { mode with last := true } c
  | c :: cs => do
      let i ← world (·.opened (.piped [] pipeRoom))
      let e ← inProcess exec do
        if input.isSome then connect 0 input
        connect 1 (some i)
        exec { mode with last := true } c
      if waited then Builtin.tell e.ending
      let t := (← get).world.collected i
      let next ← world (·.opened (.given t))
      let last ← piped exec mode waited (some next) cs
      return { last with slept := last.slept || e.slept }

/-- What stands for a process that is not waited for: it reads nothing, and is not interrupted. -/
def detach : Act Unit := do
  let i ← world (·.opened (.device .nothing .toRead))
  connect 0 (some i)
  modify fun m => { m with deaf := Signal.interrupt :: Signal.quit :: m.deaf }

/-- The outcome of a round of a loop: is there another one, or how does the loop end? -/
def roundOf (r : EStateM.Result Stop Machine Unit) (status : Nat) :
    Machine × Nat × Option (Option Stop) :=
  match r with
  | .ok _ m => (m, m.status, none)
  | .error (.again 0) m => (m, m.status, none)
  | .error (.leave 0) m => (m, m.status, some none)
  | .error (.again (n + 1)) m => (m, m.status, some (some (.again n)))
  | .error (.leave (n + 1)) m => (m, m.status, some (some (.leave n)))
  | .error stop m => (m, status, some (some stop))

def endLoop (m : Machine) (status : Nat) : Option Stop → EStateM.Result Stop Machine Unit
  | none => .ok () { m with status := status }
  | some (.leave n) => .error (.leave n) { m with status := status }
  | some (.again n) => .error (.again n) { m with status := status }
  | some stop => .error stop m

/-- Runs a body as long as a condition holds, or as long as it does not; the status is that of the
last round. -/
def rounds (holds : Bool) (condition body : Act Unit) :
    Nat → Nat → Machine → EStateM.Result Stop Machine Unit
  | 0, _, m => .error (.killed Signal.terminate) m
  | steps + 1, status, m =>
      match condition m with
      | .ok _ m =>
          if (m.status = 0) = holds then
            match roundOf (body m) m.status with
            | (m, status, none) => rounds holds condition body steps status m
            | (m, status, some stop) => endLoop m status stop
          else endLoop m status none
      | .error stop m =>
          match roundOf (.error stop m) status with
          | (m, _, none) => rounds holds condition body steps status m
          | (m, _, some stop) => endLoop m status stop

/-- Runs a body for each of several words. -/
def forEach (name : Text) (body : Act Unit) :
    Nat → List Text → Machine → EStateM.Result Stop Machine Unit
  | status, [], m => endLoop m status none
  | _, t :: ts, m =>
      match assign name t m with
      | .error stop m => .error stop m
      | .ok _ m =>
          match roundOf (body m) m.status with
          | (m, status, none) => forEach name body status ts m
          | (m, status, some stop) => endLoop m status stop

/-- Runs a loop with a count of the loops around each of its commands. -/
def inLoop (act : Act Unit) : Act Unit := do
  let depth := (← get).depth
  modify fun m => { m with depth := depth + 1 }
  act.andThen fun m => { m with depth := depth }

def maxRounds : Nat := 4294967296

/-- The commands of the first case with a pattern that matches a text. -/
def caseOf (x : Expander) (t : Text) :
    List (List Word × Option Command) → Act (Option Command)
  | [] => return none
  | (patterns, body) :: cases => do
      let isMatch ← patterns.anyM fun w => return (← x.pattern w).covers t
      if isMatch then return body else caseOf x t cases

/-- The commands in a row that a command is. -/
def rowOf : Command → List Command → List Command
  | .sequence first second, rest => rowOf first (second :: rest)
  | c, rest => c :: rest

def runRow (exec : Exec) (mode : Mode) : List Command → Act Unit
  | [] => return
  | [c] => exec mode c
  | c :: cs => do
      exec { tested := mode.tested } c
      runRow exec mode cs

/-- Runs one of several commands by the status. -/
def ifHolds (yes no : Act Unit) : Act Unit := do
  if (← get).status = 0 then yes else no

def run (exec : Exec) (mode : Mode) (c : Command) : Act Unit :=
  let test := exec { tested := true }
  let inside : Mode := { tested := mode.tested }
  let x := expander exec
  let atLine := fun (line : Nat) => modify fun m : Machine => { m with line := line }
  match c with
  | .simple line assignments words rs => simple exec mode line assignments words rs
  | .redirected line c rs => do
      atLine line
      within exec (← targets exec rs) (exec inside c)
  | .apart line c rs => do
      atLine line
      let rs ← targets exec rs
      let e ← inProcess exec do
        if ← redirectAll exec false rs then exec { mode with last := true } c else ended 2
      joined mode e
  | .background line c rs => do
      atLine line
      let rs ← targets exec rs
      inBackground exec do
        detach
        if ← redirectAll exec false rs then exec { last := true } c else ended 2
  | .pipe cs waited =>
      if waited then do
        let count := (← get).world.streams.size
        let e ← piped exec inside true none cs
        modify (trimmed count)
        joined {} e
      else
        inBackground exec do
          detach
          ended (← piped exec inside false none cs).ending.status
  | .negated c => do
      test c
      ifHolds (ended 1) (ended 0)
  | .sequence first second => runRow exec mode (rowOf first [second])
  | .both first second => do
      test first
      ifHolds (exec mode second) (pure ())
  | .either first second => do
      test first
      ifHolds (pure ()) (exec mode second)
  | .branch condition yes no => do
      test condition
      ifHolds (exec mode yes) (match no with | some c => exec mode c | none => ended 0)
  | .loop holds condition body =>
      inLoop (rounds holds (test condition) (exec inside body) maxRounds 0)
  | .each line name words body => do
      atLine line
      let texts ← words.mapM x.words
      inLoop (forEach name (exec inside body) 0 texts.flatten)
  | .choice line word cases => do
      atLine line
      let t ← x.one word
      match ← caseOf x t cases with
      | some c => exec mode c
      | none => ended 0
  | .define _ name body => do
      modify fun m => { m with
        functions := (name, body) :: m.functions.filter (·.1 ≠ name)
        status := 0 }

/-- Is a command of a kind whose error may end the shell? -/
def isChecked : Command → Bool
  | .simple _ _ _ _ => true
  | .apart _ _ _ => true
  | .background _ _ _ => true
  | .pipe _ _ => true
  | _ => false

/-- Is the status of a command an error that ends the shell? -/
def isFatal (mode : Mode) (c : Command) (m : Machine) : Bool :=
  m.status ≠ 0 && m.has 'e' && !mode.tested && isChecked c

/-- Runs a command that ends the shell where it leads back with an error that is not looked at. -/
def strictly (mode : Mode) (c : Command) (act : Act Unit) : Act Unit := fun m =>
  match act m with
  | .error .back m => .error (if isFatal mode c m then .finished else .back) m
  | r => r

/-- Runs a command, unless commands are only read, and then the commands for signals that have come
in the meantime.  The shell may end because of an error that is not looked at. -/
def step (exec : Exec) : Exec := fun mode c => do
  if (← get).has 'n' then return
  strictly mode c (run exec mode c)
  runTraps exec
  if isFatal mode c (← get) then throw .finished

/-- Runs a command in which others stand up to a certain depth. -/
def exec : Nat → Exec
  | 0 => fun _ _ => throw (.killed 11)
  | depth + 1 => step (exec depth)

/-- How deep commands may stand in each other. -/
def maxDepth : Nat := 100000

end Act

end Conformance.Shell
