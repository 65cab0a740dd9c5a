import Conformance.Host.Shell.Word

/-!
Reading commands.  A script is read line by line: a wrong line is noticed only after the lines
before it have run.
-/

namespace Conformance.Shell.Reader

/-- Leaves out blanks and comments.  Each step uses up a character. -/
def skipBlanks : Nat → Reader Unit
  | 0 => return
  | steps + 1 => do
      match ← peek with
      | some ' ' => drop 1; skipBlanks steps
      | some '\t' => drop 1; skipBlanks steps
      | some '#' => do
          let _ ← spanOf (· ≠ '\n')
          skipBlanks steps
      | _ => return

/-- The symbol of a character that may be doubled. -/
def doubled (c : Char) : Reader Token := do
  drop 1
  if (← peek) = some c then
    drop 1
    return .symbol [c, c]
  else return .symbol [c]

/-- The redirection behind its descriptor, if there is one. -/
def redirection (descriptor : Option Nat) : Reader Token := do
  if (← char) = some '>' then
    let output := fun way => Token.redirect (descriptor.getD 1) way
    match ← peek with
    | some '>' => drop 1; return output .append
    | some '|' => drop 1; return output .overwrite
    | some '&' => drop 1; return output (.duplicate false)
    | _ => return output .write
  else
    let input := descriptor.getD 0
    match ← peek with
    | some '<' => do
        drop 1
        let tabs := (← peek) = some '-'
        if tabs then drop 1
        return .document input tabs
    | some '&' => drop 1; return .redirect input (.duplicate true)
    | some '>' => drop 1; return .redirect input .update
    | _ => return .redirect input .read

/-- A word, or the redirection that starts with it. -/
def wordToken (commands : Commands) (replaces : Bool) : Reader Token := do
  let w ← word commands (.nothing replaces)
  let next ← peekWritten
  if next = some '<' ∨ next = some '>' then
    match w.bare? with
    | some [] => redirection none
    | some [c] => if c.isDigit then redirection (some (c.toNat - '0'.toNat)) else return .word w
    | _ => return .word w
  else return .word w

def token (commands : Commands) (replaces : Bool) : Reader Token := do
  match (← get).given with
  | some t =>
      modify fun s => { s with given := none }
      return t
  | none => do
      skipBlanks (← bound)
      match ← peek with
      | none => return .ended
      | some '\n' => drop 1; countLine; return .newline
      | some '&' => doubled '&'
      | some '|' => doubled '|'
      | some ';' => doubled ';'
      | some '(' => drop 1; return .symbol ['(']
      | some ')' => drop 1; return .symbol [')']
      | some _ => wordToken commands replaces

/-- The lines of a document that is taken as it is written, up to the one that ends it; what
follows; and whether that line has a line end.  Each step uses up a line. -/
def literalLines (a : Announced) : Nat → Text → Text × Text × Bool
  | 0, t => ([], t, true)
  | _ + 1, [] => ([], [], false)
  | steps + 1, t =>
      let t := if a.tabs then t.dropWhile (· = '\t') else t
      match behindEnding? a t with
      | some behind => ([], behind, a.ending.length < t.length)
      | none =>
          let line := t.takeWhile (· ≠ '\n')
          let rest := t.drop line.length
          let (more, after) := literalLines a steps (rest.drop 1)
          (line ++ rest.take 1 ++ more, after)

def readDocument (commands : Commands) (a : Announced) : Reader Unit := do
  let s ← get
  if a.literal then
    let (body, rest, isWhole) := literalLines a (s.rest.length + 1) s.rest
    let taken := s.rest.take (s.rest.length - rest.length)
    set { s with
      rest := rest
      line := s.line + taken.count '\n'
      exhausted := s.exhausted || !isWhole
      documents := (a.number, [.plain body true]) :: s.documents }
  else
    set { s with given := none, announced := [], current := some a }
    let body ←
      match ← lineStart with
      | none => pure []
      | some t => pure (Word.cons (.plain t true) (← word commands .document))
    modify fun inner => { inner with
      given := s.given
      announced := s.announced
      current := s.current
      documents := (a.number, body) :: inner.documents }

def readDocuments (commands : Commands) : Reader Unit := do
  let announced := (← get).announced
  modify fun s => { s with announced := [] }
  for a in announced do
    readDocument commands a

def skipNewlines (commands : Commands) : Nat → Token → Reader Token
  | 0, t => return t
  | steps + 1, t =>
      match t with
      | .newline => do
          readDocuments commands
          skipNewlines commands steps (← token commands true)
      | t => return t

def asKeyword : Token → Token
  | .word w =>
      match w.bare? with
      | some t => if t ∈ keywords then .keyword t else .word w
      | none => .word w
  | t => t

/-- The next token, where line ends may be left out and reserved words count. -/
def next (commands : Commands) (newlines reserved : Bool) : Reader Token := do
  let t ← token commands true
  let t ← if newlines then skipNewlines commands (← bound) t else pure t
  return if reserved then asKeyword t else t

/-- Reads commands in a word, and the parenthesis behind them if there has to be one. -/
def enclosed (commands : Commands) (list : Reader (Option Command)) (closed : Bool) :
    Reader (Option Command) := do
  let announced := (← get).announced
  let current := (← get).current
  modify fun s => { s with announced := [], current := none }
  let c ← list
  readDocuments commands
  if closed then
    let t ← token commands true
    if !t.is ")" then unexpectedFor t ")"
  modify fun s => { s with announced := announced, current := current }
  return c

def redirect? (commands : Commands) (t : Token) :
    Reader (Option (Redirect Word)) := do
  match t with
  | .redirect descriptor way => do
      match ← token commands true with
      | .word w => return some ⟨descriptor, way, w⟩
      | t => unexpected t
  | .document descriptor tabs => do
      match ← token commands false with
      | .word w =>
          let number := (← get).next
          let ending := w.flatMap fun
            | .plain t _ => t
            | _ => []
          let a : Announced := ⟨number, ending, tabs, w.isQuoted⟩
          modify fun s => { s with announced := s.announced ++ [a], next := number + 1 }
          return some ⟨descriptor, .document number, []⟩
      | t => unexpected t
  | _ => return none

/-- Reads redirections as long as there are some. -/
def redirects (commands : Commands) : Nat → Reader (List (Redirect Word))
  | 0 => return []
  | steps + 1 => do
      let t ← next commands false true
      match ← redirect? commands t with
      | some r => return r :: (← redirects commands steps)
      | none =>
          give t
          return []

def unexpectedWord {α : Type} (t : Token) : Reader α :=
  fun s => .error ⟨s.line, t.name ++ " unexpected (expecting word)".toList⟩ s

def after (first : Option Command) (second : Command) : Command :=
  match first with
  | some first => .sequence first second
  | none => second

def unwaited (line : Nat) : Command → Command
  | .pipe cs _ => .pipe cs false
  | .redirected line c rs => .background line c rs
  | c => .background line c []

/-- The words for all arguments of the script. -/
def allArguments : List Word :=
  [[.value ['@'] .whole [] true]]

/-- The commands that a function cannot be named after. -/
def unnameable : List Text :=
  [".", ":", "break", "continue", "eval", "exec", "exit", "export", "local", "readonly", "return",
    "set", "shift", "times", "trap", "unset"].map String.toList

/-- What has been read of a simple command, the last part first. -/
structure Simple where
  assignments : List (Text × Word) := []
  words : List Word := []
  redirects : List (Redirect Word) := []

namespace Simple

/-- A simple command with one more word, which may be an assignment before all other words. -/
def add (c : Simple) (w : Word) : Simple :=
  match w.assignment?, c.words with
  | some a, [] => { c with assignments := a :: c.assignments }
  | _, words => { c with words := w :: words }

def command (c : Simple) (line : Nat) : Command :=
  .simple line c.assignments.reverse c.words.reverse c.redirects.reverse

end Simple

/-- Reads a token that has to be a certain symbol or reserved word. -/
def expect (commands : Commands) (newlines reserved : Bool) (wanted : String) : Reader Unit := do
  let t ← next commands newlines reserved
  if !t.is wanted then unexpectedFor t wanted

/-- A command with redirections, if there are any.  They take the place of those that a command in a
process of its own has already. -/
def withRedirects (line : Nat) (c : Command) (rs : List (Redirect Word)) : Command :=
  match rs, c with
  | [], c => c
  | rs, .apart line c _ => .apart line c rs
  | rs, c => .redirected line c rs

mutual

def inWord (steps : Nat) : Commands := fun closed =>
  match steps with
  | 0 => fail "Word too deep"
  | steps + 1 => enclosed (inWord steps) (list steps true none) closed

/-- Reads commands behind others up to the end of a list; a list that may not be empty has at least
one command. -/
def list (steps : Nat) (mayEnd : Bool) (before : Option Command) : Reader (Option Command) :=
  match steps with
  | 0 => fail "Command too deep"
  | steps + 1 => do
      let t ← next (inWord steps) true true
      give t
      match t with
      | .ended => do
          readDocuments (inWord steps)
          give .ended
          return before
      | t =>
          if mayEnd && t.endsList then return before
          else
            let line := (← get).line
            let c ← andOr steps
            let t ← next (inWord steps) false false
            if t.is "&" then list steps true (after before (unwaited line c))
            else if t.is ";" then list steps true (after before c)
            else
              give t
              match t with
              | .newline => list steps true (after before c)
              | .ended => list steps true (after before c)
              | _ => return after before c

def andOr (steps : Nat) : Reader Command :=
  match steps with
  | 0 => fail "Command too deep"
  | steps + 1 => do
      let first ← pipeline steps false
      joined steps first

def joined (steps : Nat) (first : Command) : Reader Command :=
  match steps with
  | 0 => fail "Command too deep"
  | steps + 1 => do
      let t ← next (inWord steps) false false
      if t.is "&&" then joined steps (.both first (← pipeline steps true))
      else if t.is "||" then joined steps (.either first (← pipeline steps true))
      else
        give t
        return first

def pipeline (steps : Nat) (newlines : Bool) : Reader Command :=
  match steps with
  | 0 => fail "Command too deep"
  | steps + 1 => do
      let t ← next (inWord steps) newlines true
      let negated := t.is "!"
      let t ← if negated then next (inWord steps) false true else pure t
      give t
      let first ← command steps
      let others ← piped steps
      let c := if others.isEmpty then first else .pipe (first :: others) true
      return if negated then .negated c else c

def piped (steps : Nat) : Reader (List Command) :=
  match steps with
  | 0 => fail "Command too deep"
  | steps + 1 => do
      let t ← next (inWord steps) false false
      if t.is "|" then
        let t ← next (inWord steps) true true
        give t
        let c ← command steps
        return c :: (← piped steps)
      else
        give t
        return []

/-- Reads a command, whose first token has been looked at. -/
def command (steps : Nat) : Reader Command :=
  match steps with
  | 0 => fail "Command too deep"
  | steps + 1 => do
      let line := (← get).line
      let t ← token (inWord steps) true
      match t with
      | .word _ => give t; simple steps line {}
      | .redirect _ _ => give t; simple steps line {}
      | .document _ _ => give t; simple steps line {}
      | t => do
          let c ← compound steps line t
          let rs ← redirects (inWord steps) (← bound)
          return withRedirects line c rs

/-- Reads a compound command behind its first token. -/
def compound (steps : Nat) (line : Nat) (t : Token) : Reader Command :=
  match steps with
  | 0 => fail "Command too deep"
  | steps + 1 => do
      if t.is "if" then branch steps
      else if t.is "while" ∨ t.is "until" then
        let condition ← block steps
        expect (inWord steps) false false "do"
        let body ← block steps
        expect (inWord steps) false false "done"
        return .loop (t.is "while") condition body
      else if t.is "for" then
        let name ← token (inWord steps) true
        match name with
        | .word w =>
            match w.bare? with
            | some name =>
                if isName name then each steps line name else fail "Bad for loop variable"
            | none => fail "Bad for loop variable"
        | _ => fail "Bad for loop variable"
      else if t.is "case" then
        match ← token (inWord steps) true with
        | .word w => do
            expect (inWord steps) true true "in"
            return .choice line w (← cases steps)
        | t => unexpectedWord t
      else if t.is "(" then
        let body ← block steps
        expect (inWord steps) false false ")"
        return .apart line body []
      else if t.is "\x7b" then
        let body ← block steps
        expect (inWord steps) false false "\x7d"
        return body
      else unexpected t

def block (steps : Nat) : Reader Command :=
  match steps with
  | 0 => fail "Command too deep"
  | steps + 1 => return (← list steps false none).getD default

def branch (steps : Nat) : Reader Command :=
  match steps with
  | 0 => fail "Command too deep"
  | steps + 1 => do
      let condition ← block steps
      expect (inWord steps) false false "then"
      let yes ← block steps
      let t ← next (inWord steps) false false
      if t.is "elif" then return .branch condition yes (some (← branch steps))
      else if t.is "else" then
        let no ← block steps
        expect (inWord steps) false false "fi"
        return .branch condition yes (some no)
      else if t.is "fi" then return .branch condition yes none
      else unexpectedFor t "fi"

/-- Reads the words of a loop over them, and its body. -/
def each (steps : Nat) (line : Nat) (name : Text) : Reader Command :=
  match steps with
  | 0 => fail "Command too deep"
  | steps + 1 => do
      let t ← next (inWord steps) true true
      let words ←
        if t.is "in" then do
          let words ← wordsFrom steps
          let t ← token (inWord steps) true
          if !t.is ";" && !(t matches .newline) then unexpected t
          pure words
        else do
          if !t.is ";" then give t
          pure allArguments
      expect (inWord steps) true true "do"
      let body ← block steps
      expect (inWord steps) false false "done"
      return .each line name words body

/-- Reads words as long as there are some. -/
def wordsFrom (steps : Nat) : Reader (List Word) :=
  match steps with
  | 0 => fail "Command too deep"
  | steps + 1 => do
      match ← token (inWord steps) true with
      | .word w => return w :: (← wordsFrom steps)
      | t =>
          give t
          return []

def cases (steps : Nat) : Reader (List (List Word × Option Command)) :=
  match steps with
  | 0 => fail "Command too deep"
  | steps + 1 => do
      let t ← next (inWord steps) true true
      if t.is "esac" then return []
      else
        let t ← if t.is "(" then token (inWord steps) true else pure t
        let patterns ← patternsFrom steps t
        let body ← list steps true none
        let t ← next (inWord steps) true true
        if t.is "esac" then return [(patterns, body)]
        else if t.is ";;" then return (patterns, body) :: (← cases steps)
        else unexpectedFor t ";;"

/-- Reads the patterns of a case from a token on, and the parenthesis behind them. -/
def patternsFrom (steps : Nat) (t : Token) : Reader (List Word) :=
  match steps with
  | 0 => fail "Command too deep"
  | steps + 1 => do
      let w : Word :=
        match t with
        | .word w => w
        | .keyword w => [.plain w false]
        | _ => []
      let t ← token (inWord steps) true
      if t.is "|" then
        let t ← token (inWord steps) true
        return w :: (← patternsFrom steps t)
      else if t.is ")" then return [w]
      else unexpectedFor t ")"

/-- Reads a simple command behind what has been read of it. -/
def simple (steps : Nat) (line : Nat) (c : Simple) : Reader Command :=
  match steps with
  | 0 => fail "Command too deep"
  | steps + 1 => do
      let t ← token (inWord steps) true
      match t with
      | .word w => simple steps line (c.add w)
      | t =>
          match ← redirect? (inWord steps) t with
          | some r => simple steps line { c with redirects := r :: c.redirects }
          | none =>
              match t.is "(", c.assignments, c.words, c.redirects with
              | true, [], [name], [] => definition steps name
              | _, _, _, _ =>
                  give t
                  return c.command line

/-- Reads the definition of a function behind its name and a parenthesis. -/
def definition (steps : Nat) (name : Word) : Reader Command :=
  match steps with
  | 0 => fail "Command too deep"
  | steps + 1 => do
      expect (inWord steps) false false ")"
      match name.bare? with
      | some name =>
          if !isName name || name ∈ unnameable then fail "Bad function name"
          else
            let t ← next (inWord steps) true true
            give t
            let line := (← get).line
            return .define line name (← command steps)
      | none => fail "Bad function name"

end

/-- Reads the commands of a line behind others. -/
def lineFrom (steps : Nat) (before : Option Command) : Reader (Option Command) :=
  match steps with
  | 0 => return before
  | steps + 1 => do
      let depth := 16 * (← bound)
      let t ← next (inWord depth) false true
      match t with
      | .newline => do
          readDocuments (inWord depth)
          return before
      | .ended => do
          readDocuments (inWord depth)
          give .ended
          return before
      | t => do
          give t
          let line := (← get).line
          let c ← andOr depth
          let t ← next (inWord depth) false false
          if t.is "&" then lineFrom steps (after before (unwaited line c))
          else if t.is ";" then lineFrom steps (after before c)
          else
            match t with
            | .newline => give t; lineFrom steps (after before c)
            | .ended => give t; lineFrom steps (after before c)
            | t => unexpected t

/-- Reads the commands of the next line; a line may be empty. -/
def line : Reader (Option Command) := do
  lineFrom (← bound) none

end Conformance.Shell.Reader
