import Conformance.Host.Shell.Argument
import Conformance.Host.Shell.Builtin.Output
import Conformance.Host.Shell.Splitting
import Conformance.Host.Shell.Variable

/-!
The built-in commands that set variables, arguments and options.
-/

namespace Conformance.Shell.Builtin

/-- The name of a variable in an argument, up to an equals sign. -/
def nameOf (arg : Text) : Act Text := do
  let name := arg.takeWhile (· ≠ '=')
  if !isName name then Act.fail (name ++ ": bad variable name".toList)
  return name

/-- The name and the value of an argument that may assign a variable. -/
def named (arg : Text) : Act (Text × Option Text) := do
  let name ← nameOf arg
  return (name, if name.length < arg.length then some (arg.drop (name.length + 1)) else none)

/-- Marks variables, and sets those that come with a value; or prints the variables that are
marked. -/
def mark (word : String) (isMarked : Variable → Bool) (change : Variable → Variable)
    (args : List Text) : Act Nat := do
  let (options, names) ← Act.options [('p', false)] args
  if names = [] ∨ options ≠ [] then
    print word ((← get).listing (word.toList ++ [' ']) isMarked) 0
  else
    for arg in names do
      let (name, value) ← named arg
      match value with
      | some t => Act.setVariable name fun v => change { v with value := some t }
      | none => modify fun m => m.put name (change ((m.values.lookup name).getD {}))
    return 0

def exportCommand : List Text → Act Nat :=
  mark "export" Variable.exported fun v => { v with exported := true }

def readonlyCommand : List Text → Act Nat :=
  mark "readonly" Variable.fixed fun v => { v with fixed := true }

def unset (args : List Text) : Act Nat := do
  let (options, names) ← Act.options [('v', false), ('f', false)] args
  let functions := options.getLast?.any (·.1 = 'f')
  for name in names do
    if functions then
      modify fun m => { m with functions := m.functions.filter (·.1 ≠ name) }
    else Act.unset (← nameOf name)
  return 0

/-- Makes variables local to the function that runs. -/
def localCommand (args : List Text) : Act Nat := do
  if (← get).locals.isEmpty then Act.fail "not in a function".toList
  for arg in args do
    let (name, value) ← named arg
    Act.makeLocal name
    match value with
    | some t => Act.assign name t
    | none => pure ()
  return 0

def shift (args : List Text) : Act Nat := do
  let n ← match args with
    | [] => pure 1
    | arg :: _ => Act.count arg
  let m ← get
  if m.args.length < n then Act.fail "can't shift that many".toList
  set { m with args := m.args.drop n, optionIndex := 1, optionPlace := none }
  return 0

def optionNames : List (Text × Option Char) :=
  [("errexit", some 'e'), ("noglob", some 'f'), ("ignoreeof", some 'I'), ("interactive", some 'i'),
    ("monitor", some 'm'), ("noexec", some 'n'), ("stdin", some 's'), ("xtrace", some 'x'),
    ("verbose", some 'v'), ("vi", some 'V'), ("emacs", some 'E'), ("noclobber", some 'C'),
    ("allexport", some 'a'), ("notify", some 'b'), ("nounset", some 'u'), ("privileged", some 'p'),
    ("nolog", none), ("debug", none)].map fun (name, letter) => (name.toList, letter)

def setOption (on : Bool) (letter : Char) : Act Unit := do
  if !optionNames.any (·.2 = some letter) then Act.fail ("Illegal option -".toList ++ [letter])
  if on && letter = 'm' then Act.complain "can't access tty; job control turned off".toList
  else
    modify fun m =>
      let others := m.options.filter (· ≠ letter)
      { m with options := if on then letter :: others else others }

/-- The options with what they are set to, to be read by people or by the shell. -/
def optionListing (m : Machine) (forPeople : Bool) : Text :=
  let lines := optionNames.map fun (name, letter) =>
    let on := letter.any m.has
    if forPeople then
      name ++ List.replicate (16 - name.length) ' ' ++ (if on then "on" else "off").toList ++ ['\n']
    else "set ".toList ++ (if on then '-' else '+') :: "o ".toList ++ name ++ ['\n']
  (if forPeople then "Current option settings\n".toList else []) ++ lines.flatten

/-- Sets an option by its name; without a name, all options are printed. -/
def setNamedOption (on : Bool) (name : Option Text) : Act Unit := do
  match name with
  | none => do
      let _ ← print "set" (optionListing (← get) on) 0
  | some name =>
      match optionNames.lookup name with
      | some (some letter) => setOption on letter
      | some none => return
      | none => Act.fail ("Illegal option -o ".toList ++ name)

/-- Sets the options of a row of letters; gives the arguments that are left. -/
def setLetters (on : Bool) : Text → List Text → Act (List Text)
  | [], args => return args
  | 'o' :: letters, args => do
      setNamedOption on args.head?
      setLetters on letters (args.drop 1)
  | letter :: letters, args => do
      setOption on letter
      setLetters on letters args

/-- Sets options from arguments; gives the arguments behind them, unless there is nothing to set.
Each step uses up an argument. -/
def setOptions : Nat → List Text → Act (Option (List Text))
  | 0, _ => return none
  | _ + 1, [] => return none
  | steps + 1, arg :: args =>
      match arg with
      | ['-'] => do
          modify fun m => { m with options := m.options.filter fun c => c ≠ 'x' && c ≠ 'v' }
          return if args = [] then none else some args
      | ['-', '-'] => return some args
      | '-' :: letters => do
          setOptions steps (← setLetters true letters args)
      | '+' :: letters => do
          setOptions steps (← setLetters false letters args)
      | _ => return some (arg :: args)

/-- Sets options and arguments, or prints all variables. -/
def setCommand (args : List Text) : Act Nat := do
  if args = [] then print "set" ((← get).listing [] fun v => v.value.isSome) 0
  else
    match ← setOptions (args.length + 1) args with
    | some args =>
        modify fun m => { m with args := args, optionIndex := 1, optionPlace := none }
    | none => pure ()
    return 0

/-- A line that was read: its characters, each with whether it is quoted, and whether it ended. -/
structure ReadLine where
  glyphs : List Glyph
  ended : Bool
  size : Nat

/-- The line at the start of a text.  Unless it is taken as it is, a backslash quotes the character
behind it, or joins the next line.  Zero characters do not count.  `before` holds what was read
already, the last character first, and `size` its length in the text. -/
def readLine (raw : Bool) (before : List Glyph) (size : Nat) : Text → ReadLine
  | [] => ⟨before.reverse, false, size⟩
  | '\n' :: _ => ⟨before.reverse, true, size + 1⟩
  | '\\' :: c :: t =>
      if raw then readLine raw (.char '\\' true true :: before) (size + 1) (c :: t)
      else if c = '\n' then readLine raw before (size + 2) t
      else readLine raw (.char c true false :: before) (size + 2) t
  | c :: t =>
      if c = '\x00' || (c = '\\' && !raw) then readLine raw before (size + 1) t
      else readLine raw (.char c true true :: before) (size + 1) t

/-- The line that a stream gives next.  As long as it does not end, twice as much is looked at in
each step. -/
def nextLine (raw : Bool) (w : World) (i : Nat) : Nat → Nat → ReadLine
  | 0, size => readLine raw [] 0 ((w.ahead? i size).getD [])
  | steps + 1, size =>
      let t := (w.ahead? i size).getD []
      let line := readLine raw [] 0 t
      if line.ended || t.length < size then line else nextLine raw w i steps (2 * size)

def read (args : List Text) : Act Nat := do
  let (options, names) ← Act.options [('p', true), ('r', false)] args
  if names = [] then Act.fail "arg count".toList
  let raw := options.any (·.1 = 'r')
  let line ←
    match ← Act.stream? 0 with
    | some i => do
        let line := nextLine raw (← get).world i 64 128
        Act.world fun w => ((), w.skip i line.size)
        pure line
    | none => pure ⟨[], false, 0⟩
  let fields := Glyph.fields (← get).separators names.length line.glyphs
  for (name, i) in names.zipIdx do
    Act.assign (← nameOf name) (fields[i]?.getD [])
  return if line.ended then 0 else 1

/-- The option at which the arguments are read on: its letter, what is left of the argument, and the
count of arguments that were begun. -/
def nextOption (m : Machine) (args : List Text) : Option (Char × Text × Nat) :=
  let begun := m.optionIndex - 1
  let open' :=
    match begun, m.optionPlace with
    | n + 1, some place => ((args[n]?).getD []).drop place
    | _, _ => []
  match open' with
  | c :: rest => some (c, rest, begun)
  | [] =>
      match args[begun]? with
      | some ('-' :: c :: rest) => some (c, rest, begun + 1)
      | _ => none

/-- Sets a variable without changing the place at which options are read. -/
def keep (name value : Text) : Act Unit :=
  modify fun m => m.put name { (m.values.lookup name).getD {} with value := some value }

/-- Reads the next option of arguments into a variable. -/
def getopts (args : List Text) : Act Nat := do
  match ← Act.operands args with
  | letters :: name :: given => do
      let m ← get
      let words := if given = [] then m.args else given
      let m := if words.length + 1 < m.optionIndex then
        { m with optionIndex := 1, optionPlace := none } else m
      let quiet := letters.head? = some ':'
      let finish := fun (letter : Char) (rest : Option Text) (begun status : Nat) => do
        let place := rest.map fun t => ((words[begun - 1]?).getD []).length - t.length
        modify fun m => { m with optionIndex := begun + 1, optionPlace := place }
        keep "OPTIND".toList (Numeral.ofNat (begun + 1))
        Act.assign name [letter]
        return status
      let refuse := fun (letter shown : Char) (cause : Text) (rest : Option Text)
          (begun : Nat) => do
        if quiet then Act.assign "OPTARG".toList [letter]
        else
          Act.report cause
          Act.unset "OPTARG".toList
        finish (if quiet then shown else '?') rest begun 0
      match nextOption m words with
      | none => finish '?' none (m.optionIndex - 1) 1
      | some (c, rest, begun) =>
          if c = '-' && rest = [] && begun ≠ m.optionIndex - 1 then finish '?' none begun 1
          else
            let known := letters.dropWhile (· ≠ c)
            if known = [] || c = ':' then
              refuse c '?' ("Illegal option -".toList ++ [c]) (some rest) begun
            else if (known.drop 1).head? ≠ some ':' then do
              Act.assign "OPTARG".toList []
              finish c (some rest) begun 0
            else if rest ≠ [] then do
              Act.assign "OPTARG".toList rest
              finish c none begun 0
            else
              match words[begun]? with
              | some value => do
                  Act.assign "OPTARG".toList value
                  finish c none (begun + 1) 0
              | none =>
                  refuse c ':' ("No arg for -".toList ++ c :: " option".toList) none begun
  | _ => Act.fail "Usage: getopts optstring var [arg...]".toList

end Conformance.Shell.Builtin
