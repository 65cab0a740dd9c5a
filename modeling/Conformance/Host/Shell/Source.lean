import Conformance.Host.Shell.Command

/-!
Scripts as they are read: the text that is left, the current line, and the documents that are
announced but not read yet.
-/

namespace Conformance.Shell

/-- A word, a reserved word, a symbol, or the start of a redirection. -/
inductive Token where
  | ended
  | newline
  | symbol (s : Text)
  | keyword (w : Text)
  | word (w : Word)
  | redirect (descriptor : Nat) (way : Way)
  /-- The start of a redirection from a document; tabs before its lines may be left out. -/
  | document (descriptor : Nat) (tabs : Bool)

def keywords : List Text :=
  ["!", "case", "do", "done", "elif", "else", "esac", "fi", "for", "if", "in", "then", "until",
    "while", "\x7b", "\x7d"].map String.toList

namespace Token

/-- Is the token a certain symbol or reserved word? -/
def is : Token → String → Bool
  | .symbol a, b => a = b.toList
  | .keyword a, b => a = b.toList
  | _, _ => false

def name : Token → Text
  | .ended => "end of file".toList
  | .newline => "newline".toList
  | .symbol s => '"' :: s ++ ['"']
  | .keyword w => '"' :: w ++ ['"']
  | .word _ => "word".toList
  | .redirect _ _ => "redirection".toList
  | .document _ _ => "redirection".toList

/-- Does a list of commands end at the token? -/
def endsList (t : Token) : Bool :=
  t matches .ended ||
    ["\x7d", "do", "done", "elif", "else", "esac", "fi", "then", ")", ";;"].any t.is

end Token

/-- A document that is announced: its number, the line behind it, whether tabs before its lines are
left out, and whether it is taken as it is written. -/
structure Announced where
  number : Nat
  ending : Text
  tabs : Bool
  literal : Bool

/-- A script that is being read.  A token that was looked at can be given back. -/
structure Source where
  rest : Text
  /-- A bound for the steps of reading the rest. -/
  bound : Nat := rest.length + 2
  line : Nat := 1
  given : Option Token := none
  announced : List Announced := []
  /-- The document that is being read. -/
  current : Option Announced := none
  /-- The documents that have been read, by their numbers. -/
  documents : List (Nat × Word) := []
  /-- The number of the next document. -/
  next : Nat := 0
  /-- Has the end of the text been noticed, so that more text might change what is read? -/
  exhausted : Bool := false

/-- What is wrong with a script, and the line on which it was noticed. -/
structure ReadingError where
  line : Nat
  cause : Text

abbrev Reader := EStateM ReadingError Source

namespace Reader

def fail {α : Type} (cause : String) : Reader α :=
  fun s => .error ⟨s.line, cause.toList⟩ s

def unexpected {α : Type} (t : Token) : Reader α :=
  fun s => .error ⟨s.line, t.name ++ " unexpected".toList⟩ s

def unexpectedFor {α : Type} (t : Token) (wanted : String) : Reader α :=
  fun s => .error ⟨s.line, t.name ++ " unexpected (expecting \"".toList ++ wanted.toList ++
    "\")".toList⟩ s

def countLine : Reader Unit :=
  modify fun s => { s with line := s.line + 1 }

/-- Leaves out the line ends that a backslash takes away. -/
def joinLines : Text → Nat → Text × Nat
  | '\\' :: '\n' :: t, line => joinLines t (line + 1)
  | t, line => (t, line)

/-- The next character as it is written, which stays in the script. -/
def peekWritten : Reader (Option Char) :=
  modifyGet fun s => (s.rest.head?, { s with exhausted := s.exhausted || s.rest.isEmpty })

def drop (n : Nat) : Reader Unit :=
  modify fun s => { s with rest := s.rest.drop n }

def written : Reader (Option Char) := do
  let c ← peekWritten
  drop 1
  return c

/-- The next character behind joined lines, which stays in the script. -/
def peek : Reader (Option Char) :=
  modifyGet fun s =>
    let (rest, line) := joinLines s.rest s.line
    (rest.head?, { s with
      rest := rest
      line := line
      exhausted := s.exhausted || rest.isEmpty })

def char : Reader (Option Char) := do
  let c ← peek
  drop 1
  return c

def unread (c : Option Char) : Reader Unit :=
  modify fun s => { s with rest := c.toList ++ s.rest }

/-- Reads characters as long as they satisfy a condition. -/
def spanOf (p : Char → Bool) : Reader Text :=
  modifyGet fun s =>
    let t := s.rest.takeWhile p
    (t, { s with rest := s.rest.drop t.length })

/-- Reads characters behind joined lines as long as they satisfy a condition.  Each step uses up a
character. -/
def joinedSpan (p : Char → Bool) : Nat → Reader Text
  | 0 => return []
  | steps + 1 => do
      match ← peek with
      | some c =>
          if p c then
            drop 1
            return c :: (← joinedSpan p steps)
          else return []
      | none => return []

/-- The rest of a line at the start of which the document that is being read ends.  A line end
behind it belongs to it. -/
def behindEnding? (a : Announced) (t : Text) : Option Text :=
  if a.ending.isPrefixOf t then
    match t.drop a.ending.length with
    | [] => some []
    | '\n' :: t => some t
    | _ => none
  else none

/-- Looks whether the document that is being read ends at the start of a line.  If not, it gives the
line end that stands for itself behind tabs that are left out, which is not counted. -/
def lineStart : Reader (Option Text) := do
  match (← get).current with
  | none => return some []
  | some a => do
      let first ← peek
      let tabs ← spanOf fun c => a.tabs && first = some '\t' && c = '\t'
      let rest := (← get).rest
      match behindEnding? a rest, tabs, rest with
      | some behind, _, _ => do
          let isWhole := decide (a.ending.length < rest.length)
          modify fun s => { s with
            rest := behind
            line := s.line + if isWhole then 1 else 0
            exhausted := s.exhausted || !isWhole }
          return none
      | none, _ :: _, '\\' :: '\n' :: behind => do
          modify fun s => { s with rest := behind }
          return some "\\\n".toList
      | none, _, _ => return some []

def give (t : Token) : Reader Unit :=
  modify fun s => { s with given := some t }

/-- A bound for the steps of reading the rest of the script. -/
def bound : Reader Nat :=
  return (← get).bound

end Reader

end Conformance.Shell
