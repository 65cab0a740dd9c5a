import Conformance.Json
import Conformance.Text.Search

/-!
Reading JSON by its grammar.  White space may stand between tokens, strings may use every escape and
pairs of surrogates, and numbers have no spare zeros.  A number is kept as it is written, and so is
the word that stands for none.
-/

namespace Conformance.Json

def isSpace (c : Char) : Bool :=
  c = ' ' || c = '\t' || c = '\n' || c = '\r'

/-- A text without the white space that it starts with. -/
def skip (t : Text) : Text :=
  t.dropWhile isSpace

def hexValue? (c : Char) : Option Nat :=
  if c.isDigit then some (c.toNat - '0'.toNat)
  else if 'a' ≤ c ∧ c ≤ 'f' then some (c.toNat - 'a'.toNat + 10)
  else if 'A' ≤ c ∧ c ≤ 'F' then some (c.toNat - 'A'.toNat + 10)
  else none

/-- The code unit of four hexadecimal digits. -/
def unit? (a b c d : Char) : Option Nat := do
  return (((← hexValue? a) * 16 + (← hexValue? b)) * 16 + (← hexValue? c)) * 16 + (← hexValue? d)

/-- The character that a letter stands for behind a backslash. -/
def shorthand? : Char → Option Char
  | '"' => some '"'
  | '\\' => some '\\'
  | '/' => some '/'
  | 'b' => some '\x08'
  | 'f' => some '\x0c'
  | 'n' => some '\n'
  | 'r' => some '\r'
  | 't' => some '\t'
  | _ => none

/-- The characters of a string up to its closing quote, as numbers; a character that is spelled as
a pair of surrogates gives both of them. -/
def units? : Text → Option (List Nat × Text)
  | [] => none
  | '"' :: rest => some ([], rest)
  | '\\' :: 'u' :: a :: b :: c :: d :: rest => do
      let unit ← unit? a b c d
      let (units, rest) ← units? rest
      return (unit :: units, rest)
  | '\\' :: letter :: rest => do
      let c ← shorthand? letter
      let (units, rest) ← units? rest
      return (c.toNat :: units, rest)
  | c :: rest =>
      if c ≠ '\\' ∧ 0x20 ≤ c.toNat then do
        let (units, rest) ← units? rest
        return (c.toNat :: units, rest)
      else none

/-- Is the number a first surrogate? -/
def isHigh (n : Nat) : Bool := 0xD800 ≤ n && n < 0xDC00

/-- Is the number a second surrogate? -/
def isLow (n : Nat) : Bool := 0xDC00 ≤ n && n < 0xE000

/-- The text of numbers that stand for characters; surrogates come in pairs only. -/
def ofUnits? : List Nat → Option Text
  | [] => some []
  | n :: rest =>
      if isHigh n then
        match rest with
        | low :: rest =>
            if isLow low then
              (ofUnits? rest).map
                (Char.ofNat (0x10000 + (n - 0xD800) * 0x400 + (low - 0xDC00)) :: ·)
            else none
        | [] => none
      else if isLow n then none
      else (ofUnits? rest).map (Char.ofNat n :: ·)

/-- A string behind its opening quote. -/
def string? (t : Text) : Option (Text × Text) := do
  let (units, rest) ← units? t
  return (← ofUnits? units, rest)

/-- How far a number is read. -/
inductive NumberState where
  | start
  | signed
  | zero
  | whole
  | point
  | fraction
  | mark
  | exponentSign
  | exponent
deriving DecidableEq, Repr

namespace NumberState

/-- A digit that begins the whole part; nothing but a point or an exponent follows a zero. -/
def leading? (c : Char) : Option NumberState :=
  if c = '0' then some .zero else if c.isDigit then some .whole else none

/-- What begins an exponent. -/
def mark? (c : Char) : Option NumberState :=
  if c = 'e' ∨ c = 'E' then some .mark else none

/-- What ends the whole part. -/
def point? (c : Char) : Option NumberState :=
  if c = '.' then some .point else mark? c

/-- A digit that leads to a state. -/
def digit? (s : NumberState) (c : Char) : Option NumberState :=
  if c.isDigit then some s else none

/-- The state after one more character, if the number goes on with it. -/
def next? : NumberState → Char → Option NumberState
  | .start, c => if c = '-' then some .signed else leading? c
  | .signed, c => leading? c
  | .zero, c => point? c
  | .whole, c => (digit? .whole c).or (point? c)
  | .point, c => digit? .fraction c
  | .fraction, c => (digit? .fraction c).or (mark? c)
  | .mark, c => if c = '+' ∨ c = '-' then some .exponentSign else digit? .exponent c
  | .exponentSign, c => digit? .exponent c
  | .exponent, c => digit? .exponent c

def isFinal : NumberState → Bool
  | .zero | .whole | .fraction | .exponent => true
  | _ => false

/-- The state after a text. -/
def after? (s : NumberState) (t : Text) : Option NumberState :=
  t.foldlM next? s

/-- The rest of a number, as long as it goes on. -/
def rest? (s : NumberState) : Text → Option (Text × Text)
  | [] => if s.isFinal then some ([], []) else none
  | c :: t =>
      match s.next? c with
      | some s' => do
          let (written, rest) ← rest? s' t
          return (c :: written, rest)
      | none => if s.isFinal then some ([], c :: t) else none

end NumberState

section Rows

variable {α : Type}

/-- Items with commas between them, up to a closing bracket. -/
def items? (close : Char) (item? : Text → Option (α × Text)) : Nat → Text → Option (List α × Text)
  | 0, _ => none
  | fuel + 1, t => do
      let (item, rest) ← item? t
      match skip rest with
      | [] => none
      | c :: rest =>
          if c = close then some ([item], rest)
          else if c = ',' then do
            let (items, rest) ← items? close item? fuel rest
            return (item :: items, rest)
          else none

/-- A row behind its opening bracket; it may be empty. -/
def row? (close : Char) (item? : Text → Option (α × Text)) (fuel : Nat) (t : Text) :
    Option (List α × Text) :=
  match skip t with
  | [] => none
  | c :: rest => if c = close then some ([], rest) else items? close item? fuel (c :: rest)

end Rows

def member? (value? : Text → Option (Json × Text)) (t : Text) :
    Option ((Text × Json) × Text) := do
  let t ← Text.after? ['"'] (skip t)
  let (name, t) ← string? t
  let t ← Text.after? [':'] (skip t)
  let (value, t) ← value? t
  return ((name, value), t)

/-- A number, or the word that stands for none. -/
def number? (t : Text) : Option (Json × Text) :=
  match Text.after? "null".toList t with
  | some rest => some (.number "null".toList, rest)
  | none => do
      let (written, rest) ← NumberState.rest? .start t
      return (.number written, rest)

/-- The value that a text starts with, nested no deeper than the fuel. -/
def value? : Nat → Text → Option (Json × Text)
  | 0, _ => none
  | fuel + 1, t =>
      match skip t with
      | '"' :: t => do
          let (t, rest) ← string? t
          return (.text t, rest)
      | '[' :: t => do
          let (items, rest) ← row? ']' (value? fuel) fuel t
          return (.list items, rest)
      | '\x7b' :: t => do
          let (members, rest) ← row? '\x7d' (member? (value? fuel)) fuel t
          return (.object members, rest)
      | t => number? t

/-- The value of a JSON text.  A value is never nested deeper than its text is long. -/
def decode? (t : Text) : Option Json := do
  let (value, rest) ← value? t.length t
  if skip rest = [] then return value else none

end Conformance.Json
