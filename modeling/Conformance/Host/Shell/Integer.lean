import Conformance.Numeral

/-!
Integers in the arguments of shell commands.  A number may have blanks and a sign before it; where
prefixes count, `0x` starts hexadecimal and `0` octal digits.  Words have 64 bits.
-/

namespace Conformance.Shell.Integer

/-- The value of a digit in a base. -/
def digit? (base : Nat) (c : Char) : Option Nat :=
  let value :=
    if c.isDigit then c.toNat - '0'.toNat
    else if 'a' ≤ c ∧ c ≤ 'f' then c.toNat - 'a'.toNat + 10
    else if 'A' ≤ c ∧ c ≤ 'F' then c.toNat - 'A'.toNat + 10
    else base
  if value < base then some value else none

def words : Nat := UInt64.size

/-- The value of the digits at the start of a text, and what follows them.  A value beyond all words
stands for any other one beyond them. -/
def digits (base : Nat) (value : Nat) : Text → Nat × Text
  | [] => (value, [])
  | c :: t =>
      match digit? base c with
      | some d => digits base (if value < words then value * base + d else value) t
      | none => (value, c :: t)

/-- Reads a number without a sign that may have a prefix. -/
def prefixed? : Text → Option (Nat × Text)
  | '0' :: x :: c :: t =>
      if (x = 'x' ∨ x = 'X') ∧ (digit? 16 c).isSome then some (digits 16 0 (c :: t))
      else some (digits 8 0 (x :: c :: t))
  | '0' :: t => some (digits 8 0 t)
  | c :: t => if c.isDigit then some (digits 10 0 (c :: t)) else none
  | [] => none

def decimal? : Text → Option (Nat × Text)
  | c :: t => if c.isDigit then some (digits 10 0 (c :: t)) else none
  | [] => none

/-- A text without the blanks at its start. -/
def dropBlanks (t : Text) : Text :=
  t.dropWhile fun c => c ∈ " \t\n\x0b\x0c\r".toList

/-- Reads a number after blanks and a sign. -/
def signed? (read : Text → Option (Nat × Text)) (t : Text) : Option (Int × Text) :=
  match dropBlanks t with
  | '-' :: t => (read t).map fun (n, rest) => (-n, rest)
  | '+' :: t => (read t).map fun (n, rest) => (n, rest)
  | t => (read t).map fun (n, rest) => (n, rest)

/-- The number of half words, of 32 bits. -/
def halfWords : Nat := UInt32.size

def least : Int := -0x8000000000000000

def greatest : Int := 0x7fffffffffffffff

def wrap (n : Int) : Int :=
  n.bmod words

/-- The integer as a word without a sign. -/
def toWord (n : Int) : Nat :=
  (n % words).toNat

def clamp (n : Int) : Int :=
  max least (min greatest n)

/-- The number that a whole text is, with blanks on either side; it has to fit into a signed
word. -/
def whole? (read : Text → Option (Nat × Text)) (t : Text) : Option Int :=
  match signed? read t with
  | some (n, rest) => if dropBlanks rest = [] && clamp n = n then some n else none
  | none => none

/-- The value of a variable in an expression, where a text of blanks counts as zero. -/
def ofValue? (t : Text) : Option Int :=
  if dropBlanks t = [] then some 0 else whole? prefixed? t

/-- The greatest count that an argument can name. -/
def greatestCount : Int := 0x7fffffff

def count? (t : Text) : Option Nat :=
  match whole? decimal? t with
  | some n => if 0 ≤ n && n ≤ greatestCount then some n.toNat else none
  | none => none

end Conformance.Shell.Integer
