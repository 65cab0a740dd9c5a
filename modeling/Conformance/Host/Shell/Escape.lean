import Conformance.Text

/-!
Escape sequences of the printing commands.  Behind a backslash, a letter stands for a control
character and up to three octal digits for a single byte; any other backslash stands for itself.
-/

namespace Conformance.Shell.Escape

def isOctal (c : Char) : Bool :=
  '0' ≤ c && c ≤ '7'

/-- The character of a number of octal digits. -/
def octal (digits : Text) : Char :=
  Char.ofNat (digits.foldl (fun n c => n * 8 + (c.toNat - '0'.toNat)) 0 % 256)

/-- The characters that single letters behind a backslash stand for. -/
def letters : List (Char × Char) :=
  [('\\', '\\'), ('a', '\x07'), ('b', '\x08'), ('e', '\x1b'), ('f', '\x0c'), ('n', '\n'),
    ('r', '\r'), ('t', '\t'), ('v', '\x0b')]

/-- The character of the sequence behind a backslash, and what follows it. -/
def read (t : Text) : Char × Text :=
  match t with
  | [] => ('\\', [])
  | c :: rest =>
      if isOctal c then
        let digits := (t.take 3).takeWhile isOctal
        (octal digits, t.drop digits.length)
      else
        match letters.lookup c with
        | some d => (d, rest)
        | none => ('\\', t)

/-- A text with its sequences replaced, and whether one of them ends all output.  Octal digits may
have a further zero before them.  Each step uses up a character. -/
def replace : Nat → Text → Text × Bool
  | 0, _ => ([], false)
  | _ + 1, [] => ([], false)
  | steps + 1, c :: t =>
      if c ≠ '\\' then
        let (rest, stop) := replace steps t
        (c :: rest, stop)
      else if t.head? = some 'c' then ([], true)
      else
        let zero := t.head? = some '0' && isOctal ((t.drop 1).headD ' ')
        let (d, t) := read (if zero then t.drop 1 else t)
        let (rest, stop) := replace steps t
        (d :: rest, stop)

/-- A whole text with its sequences replaced, and whether one of them ends all output. -/
def replaceAll (t : Text) : Text × Bool :=
  replace (t.length + 1) t

end Conformance.Shell.Escape
