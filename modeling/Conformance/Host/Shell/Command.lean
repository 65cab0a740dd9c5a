import Conformance.Text

/-!
The commands of shell scripts and the words they are made of.  A script is a text with one character
for each byte.  Words keep apart what is quoted and what is replaced when a command runs.
-/

namespace Conformance.Shell

/-- What a word takes from a parameter.  Where `orEmpty` holds, an empty value counts as none. -/
inductive Use where
  /-- The value. -/
  | whole
  /-- The length of the value. -/
  | size
  /-- The value, or another word if there is none. -/
  | otherwise (orEmpty : Bool)
  /-- The value, which is set to another word if there is none. -/
  | assigned (orEmpty : Bool)
  /-- The value; it is an error if there is none. -/
  | required (orEmpty : Bool)
  /-- Another word if there is a value. -/
  | instead (orEmpty : Bool)
  /-- The value without the shortest or longest part at an end that matches a pattern. -/
  | cut (atEnd longest : Bool)
  /-- A use that the shell does not know. -/
  | wrong
deriving DecidableEq, Repr

inductive Way where
  | read
  | write
  | overwrite
  | append
  | update
  /-- To what another descriptor is connected to; `input` tells how it is written. -/
  | duplicate (input : Bool)
  /-- To a document in the script, by its number. -/
  | document (number : Nat)
deriving DecidableEq, Repr

/-- A connection of a descriptor for the time of a command. -/
structure Redirect (α : Type) where
  descriptor : Nat
  way : Way
  target : α
deriving Repr

mutual

inductive Part where
  /-- Characters that stand for themselves. -/
  | plain (t : Text) (quoted : Bool)
  /-- What a parameter gives. -/
  | value (name : Text) (use : Use) (word : List Part) (quoted : Bool)
  /-- The value of an arithmetic expression. -/
  | number (expression : List Part) (quoted : Bool)
  /-- The output of a command. -/
  | output (c : Option Command) (quoted : Bool)

/-- A command.  Lines are those that error messages show. -/
inductive Command where
  | simple (line : Nat) (assignments : List (Text × List Part)) (words : List (List Part))
      (redirects : List (Redirect (List Part)))
  | redirected (line : Nat) (c : Command) (redirects : List (Redirect (List Part)))
  /-- A command in a process of its own. -/
  | apart (line : Nat) (c : Command) (redirects : List (Redirect (List Part)))
  /-- A command that is not waited for. -/
  | background (line : Nat) (c : Command) (redirects : List (Redirect (List Part)))
  /-- Commands that each read what the one before prints. -/
  | pipe (cs : List Command) (waited : Bool)
  | negated (c : Command)
  | sequence (first second : Command)
  | both (first second : Command)
  | either (first second : Command)
  | branch (condition yes : Command) (no : Option Command)
  /-- Rounds as long as the condition holds, or as long as it does not. -/
  | loop (holds : Bool) (condition body : Command)
  | each (line : Nat) (name : Text) (words : List (List Part)) (body : Command)
  | choice (line : Nat) (word : List Part) (cases : List (List (List Part) × Option Command))
  | define (line : Nat) (name : Text) (body : Command)

end

abbrev Word := List Part

instance : Inhabited Command := ⟨.simple 0 [] [] []⟩

/-- A word with one more part before it; plain parts of one kind grow together. -/
def Word.cons : Part → Word → Word
  | .plain a q, .plain b r :: rest =>
      if q = r then .plain (a ++ b) q :: rest else .plain a q :: .plain b r :: rest
  | part, rest => part :: rest

/-- The text of a word in which nothing is quoted or replaced. -/
def Word.bare? : Word → Option Text
  | [] => some []
  | [.plain t false] => some t
  | _ => none

def Word.isQuoted (w : Word) : Bool :=
  w.any fun
    | .plain _ quoted => quoted
    | _ => false

def startsName (c : Char) : Bool :=
  c.isAlpha || c = '_'

def isNameChar (c : Char) : Bool :=
  c.isAlphanum || c = '_'

/-- Is the text the name of a variable? -/
def isName (t : Text) : Bool :=
  t.head?.any startsName && t.all isNameChar

/-- The name and the value of a text that assigns a variable. -/
def assignment? (t : Text) : Option (Text × Text) :=
  let name := t.takeWhile isNameChar
  match t.drop name.length with
  | '=' :: value => if isName name then some (name, value) else none
  | _ => none

/-- The name and the value of a word that assigns a variable. -/
def Word.assignment? : Word → Option (Text × Word)
  | .plain t false :: rest => (Shell.assignment? t).map fun (name, value) =>
      (name, if value = [] then rest else .plain value false :: rest)
  | _ => none

end Conformance.Shell
