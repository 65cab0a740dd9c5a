import Conformance.Host.Shell.Source

/-!
Reading words.  Where a word ends, and what is special in it, depends on the marks around it.
-/

namespace Conformance.Shell

/-- The marks around a part of a word. -/
inductive Around where
  /-- None; in the line that ends a document nothing is replaced. -/
  | nothing (replaces : Bool)
  /-- Double quotes, which may stand in the braces of a parameter. -/
  | quotes (replaces inBraces : Bool)
  /-- The braces of a parameter. -/
  | braces
  /-- The braces of a parameter between quotes; further quotes may be open. -/
  | quotedBraces (opened : Bool)
  | document
  /-- The parentheses of an arithmetic expression, with the count of those opened in it. -/
  | arithmetic (depth : Nat)
deriving DecidableEq, Repr

namespace Around

def isQuoting : Around → Bool
  | .nothing _ => false
  | .braces => false
  | _ => true

/-- Are parameters, commands and expressions replaced in it? -/
def replaces : Around → Bool
  | .nothing replaces => replaces
  | .quotes replaces _ => replaces
  | _ => true

/-- Is a character that follows a backslash taken alone? -/
def escapes (around : Around) (c : Char) : Bool :=
  match around with
  | .nothing _ => true
  | .braces => true
  | .quotes _ inBraces => c ∈ "\\\x60$\"".toList || (inBraces && c = '\x7d')
  | .quotedBraces _ => c ∈ "\\\x60$\"\x7d".toList
  | .document => c ∈ "\\\x60$".toList
  | .arithmetic _ => c ∈ "\\\x60$\"".toList

end Around

/-- Characters that end a word unless they are quoted. -/
def endsWord (c : Char) : Bool :=
  c ∈ " \t\n;&|<>()".toList

/-- Characters that may mean something in a word, depending on what is around it. -/
def isMark (c : Char) : Bool :=
  endsWord c || c ∈ "'\"\\$\x60\x7d".toList

/-- The parameters that are named by one character other than a letter. -/
def isSpecialName (c : Char) : Bool :=
  c.isDigit || c ∈ "#?$!-*@".toList

/-- Reads the commands in a word, up to a closing parenthesis or up to the end of the script. -/
abbrev Commands := Bool → Reader (Option Command)

namespace Reader

/-- Reads the commands in a text of its own, which is followed by nothing. -/
def within (commands : Reader (Option Command)) (t : Text) : Reader (Option Command) := fun s =>
  match commands { rest := t, documents := s.documents, next := s.next } with
  | .ok c inner => .ok c { s with documents := inner.documents, next := inner.next }
  | .error e inner => .error e { s with documents := inner.documents, next := inner.next }

/-- The text up to a closing backquote, in which a backslash takes away the meaning of what follows
it. -/
def backquoted (quoted : Bool) : Nat → Reader Text
  | 0 => fail "EOF in backquote substitution"
  | steps + 1 => do
      match ← char with
      | none => fail "EOF in backquote substitution"
      | some '\x60' => return []
      | some '\\' => do
          match ← written with
          | none => fail "EOF in backquote substitution"
          | some c =>
              let rest ← backquoted quoted steps
              if c ∈ "\\\x60$".toList || (quoted && c = '"') then return c :: rest
              else return '\\' :: c :: rest
      | some c => do
          if c = '\n' then countLine
          return c :: (← backquoted quoted steps)

/-- The name of a parameter in braces.  A name may start with a letter or be a number. -/
def parameterName : Reader Text := do
  match ← peek with
  | some c => joinedSpan (if c.isDigit then Char.isDigit else isNameChar) (← bound)
  | none => return []

/-- The use that the characters behind a parameter name make of it, and whether another word
follows. -/
def use : Reader (Use × Bool) := do
  let first ← char
  let orEmpty := first = some ':'
  let c ← if orEmpty then char else pure first
  match c with
  | some '\x7d' => return (.whole, orEmpty)
  | some '-' => return (.otherwise orEmpty, true)
  | some '+' => return (.instead orEmpty, true)
  | some '?' => return (.required orEmpty, true)
  | some '=' => return (.assigned orEmpty, true)
  | some c =>
      if !orEmpty && (c = '%' || c = '#') then
        let longest := (← peek) = some c
        if longest then drop 1
        return (.cut (c = '%') longest, true)
      else return (.wrong, true)
  | none => return (.wrong, true)

/-- A parameter in braces up to its use: the name, the use, and whether another word follows. -/
def parameter : Reader (Text × Use × Bool) := do
  let c ← peek
  match c with
  | none => return ([], .wrong, true)
  | some '\x7d' => return ([], .wrong, true)
  | some c =>
      if startsName c || c.isDigit then
        let name ← parameterName
        let (u, more) ← use
        return (name, u, more)
      else
        drop 1
        let next ← peek
        if c = '#' && next.any isNameChar then
          let name ← parameterName
          if (← peek) = some '\x7d' then return (name, .size, true)
          else return (name, .wrong, true)
        else if c = '#' && next ≠ some '\x7d' then
          let special ← char
          if (← peek) = some '\x7d' then
            if special.any isSpecialName then return (special.toList, .size, true)
            else return ([], .wrong, true)
          else
            unread special
            let (u, more) ← use
            return (['#'], u, more)
        else if isSpecialName c then
          let (u, more) ← use
          return ([c], u, more)
        else return ([], .wrong, true)

/-- The part of a word that a dollar sign starts; `word` reads what belongs to it. -/
def dollar (around : Around) (commands : Commands) (word : Around → Reader Word) :
    Reader Part := do
  let quoted := around.isQuoting
  let c ← if around.replaces then peek else pure none
  match c with
  | some '(' => do
      drop 1
      if (← peek) = some '(' then
        drop 1
        return .number (← word (.arithmetic 0)) quoted
      else
        return .output (← commands true) quoted
  | some '\x7b' => do
      drop 1
      let (name, u, more) ← parameter
      if more then
        let inside :=
          if (u matches .cut _ _) || !quoted then Around.braces else .quotedBraces false
        return .value name u (← word inside) quoted
      else return .value name u [] quoted
  | some c =>
      if startsName c then
        return .value (← joinedSpan isNameChar (← bound)) .whole [] quoted
      else if isSpecialName c then
        drop 1
        return .value [c] .whole [] quoted
      else return .plain ['$'] quoted
  | none => return .plain ['$'] quoted

def singleQuoted : Reader Text := do
  let t ← spanOf (· ≠ '\'')
  modify fun s => { s with line := s.line + t.count '\n' }
  if (← written).isNone then fail "Unterminated quoted string"
  return t

/-- What a backslash and the character behind it stand for. -/
def escaped (around : Around) : Reader Text := do
  match ← written with
  | none => return ['\\']
  | some c =>
      if c = '\n' then countLine
      return if around.escapes c then [c] else ['\\', c]

/-- The rest of a word that reaches the end of the script or of a document. -/
def openEnd (around : Around) : Reader Word := do
  let inDocument := (← get).current.isSome
  match around with
  | .nothing _ => return []
  | .document => return []
  | .braces => fail "Missing '\x7d'"
  | .arithmetic _ => fail "Missing '))'"
  | _ => if inDocument then fail "Missing '\x7d'" else fail "Unterminated quoted string"

def endsAt (around : Around) (c : Char) : Reader Bool := do
  match around with
  | .nothing _ => return endsWord c
  | .quotes _ _ => if c = '"' then drop 1; return true else return false
  | .braces => if c = '\x7d' then drop 1; return true else return false
  | .quotedBraces opened => if c = '\x7d' && !opened then drop 1; return true else return false
  | .document => return false
  | .arithmetic depth =>
      if c = ')' && depth = 0 then
        drop 1
        if (← peek) = some ')' then drop 1; return true
        else unread (some c); return false
      else return false

/-- Reads the rest of a word.  Each step uses up a character of the script. -/
def parts (commands : Commands) : Nat → Around → Reader Word
  | 0, _ => return []
  | steps + 1, around => do
      match ← peek with
      | none => openEnd around
      | some c =>
          if ← endsAt around c then return []
          else if c = '\\' then do
            drop 1
            let t ← escaped around
            return Word.cons (.plain t true) (← parts commands steps around)
          else if c = '\'' && !around.isQuoting then do
            drop 1
            let t ← singleQuoted
            return Word.cons (.plain t true) (← parts commands steps around)
          else if c = '"' && around ≠ .document && !(around matches .arithmetic _) then do
            drop 1
            match around with
            | .quotedBraces opened =>
                return Word.cons (.plain [] true) (← parts commands steps (.quotedBraces !opened))
            | _ => do
                let inside ← parts commands steps (.quotes around.replaces (around matches .braces))
                let rest ← parts commands steps around
                let rest := if inside matches [.value ['@'] .whole [] true] then rest
                  else Word.cons (.plain [] true) rest
                return inside.foldr Word.cons rest
          else if c = '$' then do
            drop 1
            let part ← dollar around commands (parts commands steps)
            return Word.cons part (← parts commands steps around)
          else if c = '\x60' && around.replaces then do
            drop 1
            let t ← backquoted around.isQuoting (← bound)
            let part := .output (← within (commands false) t) around.isQuoting
            return Word.cons part (← parts commands steps around)
          else if c = '\n' then do
            drop 1
            countLine
            match ← lineStart with
            | none => return Word.cons (.plain [c] around.isQuoting) (← openEnd around)
            | some t =>
                return Word.cons (.plain (c :: t) around.isQuoting) (← parts commands steps around)
          else do
            drop 1
            let next :=
              match around, c with
              | .arithmetic depth, '(' => Around.arithmetic (depth + 1)
              | .arithmetic depth, ')' => .arithmetic (depth - 1)
              | around, _ => around
            let run ← spanOf (!isMark ·)
            return Word.cons (.plain (c :: run) around.isQuoting) (← parts commands steps next)

/-- Reads a word, or the part of one that some marks enclose. -/
def word (commands : Commands) (around : Around) : Reader Word := do
  parts commands (← bound) around

end Reader

end Conformance.Shell
