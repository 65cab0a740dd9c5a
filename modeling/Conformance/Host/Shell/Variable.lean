import Conformance.Host.Shell.Descriptor

/-!
Setting variables: values, what is handed on to other programs, what may not be changed, and what is
local to a function.
-/

namespace Conformance.Shell

namespace Act

def setVariable (name : Text) (change : Variable → Variable) : Act Unit := do
  let m ← get
  let old := (m.values.lookup name).getD {}
  if old.fixed then fail (name ++ ": is read only".toList)
  let new := change old
  set (m.put name { new with exported := new.exported || m.has 'a' })
  if name = "OPTIND".toList then
    let t := new.value.getD []
    match if t = [] then some 0 else Integer.count? t with
    | some n => modify fun m => { m with optionIndex := max n 1, optionPlace := none }
    | none => fail ("Illegal number: ".toList ++ t)

def assign (name value : Text) : Act Unit :=
  setVariable name fun v => { v with value := some value }

def unset (name : Text) : Act Unit := do
  setVariable name fun v => { v with value := none, exported := false }
  modify fun m => { m with values := m.values.filter (·.1 ≠ name) }

def openLocals : Act Unit :=
  modify fun m => { m with locals := [] :: m.locals }

/-- Keeps the value that a variable has before it becomes local. -/
def makeLocal (name : Text) : Act Unit :=
  modify fun m =>
    match m.locals with
    | [] => m
    | saved :: outer =>
        if saved.any (·.1 = name) then m
        else { m with locals := ((name, m.values.lookup name) :: saved) :: outer }

end Act

/-- A text in single quotes, as the shell reads it; single quotes in it stand in double quotes.
Each step uses up a character. -/
def singleQuotedFrom : Nat → Text → Text
  | 0, _ => []
  | steps + 1, t =>
      let run := t.takeWhile (· ≠ '\'')
      let rest := t.drop run.length
      let marks := rest.takeWhile (· = '\'')
      let rest := rest.drop marks.length
      let first := '\'' :: run ++ ['\'']
      if marks = [] then first
      else
        let shown := first ++ '"' :: marks ++ ['"']
        if rest = [] then shown else shown ++ singleQuotedFrom steps rest

def singleQuoted (t : Text) : Text :=
  singleQuotedFrom (t.length + 1) t

/-- The state in which the variables that were local have their old values back. -/
def Machine.closeLocals (m : Machine) : Machine :=
  match m.locals with
  | [] => m
  | saved :: outer =>
      saved.foldl (fun m (name, old) =>
        match old with
        | some v => m.put name v
        | none => { m with values := m.values.filter (·.1 ≠ name) }) { m with locals := outer }

/-- The variables in the order of their names, each on a line as the shell reads it behind a
word. -/
def Machine.listing (m : Machine) (word : Text) (which : Variable → Bool) : Text :=
  let chosen := m.values.filter fun v => which v.2
  let sorted := chosen.mergeSort fun a b => !(b.1.lex a.1 fun c d => c.toNat < d.toNat)
  sorted.flatMap fun (name, v) =>
    let value :=
      match v.value with
      | some t => '=' :: singleQuoted t
      | none => []
    word ++ name ++ value ++ ['\n']

end Conformance.Shell
