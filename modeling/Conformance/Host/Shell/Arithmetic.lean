import Conformance.Host.Shell.Descriptor

/-!
Arithmetic expressions of the shell.  Operators bind in levels; within a level they are worked off
from left to right.  Division cuts toward zero, and results are words of 64 bits.  An expression may
assign variables.
-/

namespace Conformance.Shell

inductive Lexeme where
  | ended
  | number (n : Int)
  | name (t : Text)
  | operator (t : Text)
  | unknown
deriving DecidableEq, Repr

/-- An expression that is being worked off: its whole text, the word at the front, and what is
behind that. -/
structure Reckoning where
  whole : Text
  now : Lexeme := .ended
  rest : Text

abbrev Reckon := StateT Reckoning Act

namespace Reckon

def ofBool (b : Bool) : Int :=
  if b then 1 else 0

/-- An operation on the bits of two words. -/
def bitwise (f : Nat → Nat → Nat) (a b : Int) : Int :=
  f (Integer.toWord a) (Integer.toWord b)

/-- The count of bits by which a word is shifted. -/
def shift (b : Int) : Nat :=
  Nat.pow 2 (b % 64).toNat

/-- The binary operators by their level, the one that binds most first. -/
def operators : List (Text × Nat × (Int → Int → Int)) :=
  [("*", 0, fun a b => a * b), ("/", 0, Int.tdiv), ("%", 0, Int.tmod), ("+", 1, fun a b => a + b),
    ("-", 1, fun a b => a - b), ("<<", 2, fun a b => a * shift b),
    (">>", 2, fun a b => a / shift b),
    ("<", 3, fun a b => ofBool (a < b)), ("<=", 3, fun a b => ofBool (a ≤ b)),
    (">", 3, fun a b => ofBool (a > b)), (">=", 3, fun a b => ofBool (a ≥ b)),
    ("==", 4, fun a b => ofBool (a = b)), ("!=", 4, fun a b => ofBool (a ≠ b)),
    ("&", 5, bitwise (· &&& ·)), ("^", 6, bitwise (· ^^^ ·)), ("|", 7, bitwise (· ||| ·))].map
    fun (name, level, f) => (name.toList, level, f)

/-- The operators that assign the result of a binary one. -/
def assigning : List (Text × Text) :=
  ["*", "/", "%", "+", "-", "<<", ">>", "&", "^", "|"].map fun name =>
    (name.toList ++ ['='], name.toList)

def names : List Text :=
  operators.map Prod.fst ++ assigning.map Prod.fst ++
    ["&&", "||", "=", "!", "~", "(", ")", "?", ":"].map String.toList

/-- The longest operator at the start of a text; empty if there is none. -/
def operatorAt (t : Text) : Text :=
  (names.filter (·.isPrefixOf t)).foldl
    (fun best w => if best.length < w.length then w else best) []

/-- The word at the start of a text, and what follows it. -/
def lexeme (t : Text) : Lexeme × Text :=
  match t.dropWhile fun c => c ∈ " \t\n".toList with
  | [] => (.ended, [])
  | c :: t =>
      if startsName c then
        let name := (c :: t).takeWhile isNameChar
        (.name name, (c :: t).drop name.length)
      else
        match Integer.prefixed? (c :: t) with
        | some (n, rest) => (.number (Integer.clamp n), rest)
        | none =>
            let operator := operatorAt (c :: t)
            if operator = [] then (.unknown, t)
            else (.operator operator, (c :: t).drop operator.length)

def advance : Reckon Unit :=
  modify fun r =>
    let (now, rest) := lexeme r.rest
    { r with now := now, rest := rest }

def fail {α : Type} (cause : String) : Reckon α := do
  let r ← get
  Act.fail ("arithmetic expression: ".toList ++ cause.toList ++ ": \"".toList ++ r.whole ++ ['"'])

def valueOf (name : Text) : Reckon Int := do
  let m ← getThe Machine
  let t := (m.value? name).getD []
  match Integer.ofValue? t with
  | some n => return n
  | none => Act.fail ("Illegal number: ".toList ++ t)

/-- Is the word at the front a certain operator? -/
def isNow (w : String) : Reckon Bool :=
  return (← get).now = .operator w.toList

/-- The level and the function of the binary operator at the front. -/
def binary? : Reckon (Option (Text × Nat × (Int → Int → Int))) := do
  match (← get).now with
  | .operator t => return (operators.lookup t).map fun f => (t, f)
  | _ => return none

def apply (name : Text) (f : Int → Int → Int) (a b : Int) : Reckon Int := do
  if name = ['/'] ∨ name = ['%'] then
    if b = 0 then fail "division by zero"
    else if a = Integer.least ∧ b = -1 then throw (Stop.killed 8)
  return Integer.wrap (f a b)

/-- Sets a variable to a number; `set` sets a variable to a text. -/
def assign (set : Text → Text → Act Unit) (name : Text) (n : Int) : Reckon Int := do
  set name (Numeral.ofInt n)
  return n

mutual

/-- The value of an assignment or of a condition.  Where `live` does not hold, nothing is assigned
and no variable is looked up. -/
def assignment (steps : Nat) (set : Text → Text → Act Unit) (live : Bool) : Reckon Int :=
  match steps with
  | 0 => fail "too deep"
  | steps + 1 => do
      let r ← get
      match r.now, (lexeme r.rest).1 with
      | .name name, .operator t =>
          if t = ['='] then
            advance
            advance
            let n ← assignment steps set live
            if live then assign set name n else return n
          else
            match (assigning.lookup t).bind fun t => (operators.lookup t).map fun f => (t, f) with
            | some (t, _, f) => do
                advance
                advance
                let n ← assignment steps set live
                if live then
                  assign set name (← apply t f (← valueOf name) n)
                else return n
            | none => condition steps set live
      | _, _ => condition steps set live

/-- The value of a choice between two values, or of what is joined by `||`. -/
def condition (steps : Nat) (set : Text → Text → Act Unit) (live : Bool) : Reckon Int :=
  match steps with
  | 0 => fail "too deep"
  | steps + 1 => do
      let a ← either steps set live
      if ← isNow "?" then
        advance
        let b ← assignment steps set (live && a ≠ 0)
        if !(← isNow ":") then fail "expecting ':'"
        advance
        let c ← condition steps set (live && a = 0)
        return if a ≠ 0 then b else c
      else return a

/-- The value of what is joined by `||`. -/
def either (steps : Nat) (set : Text → Text → Act Unit) (live : Bool) : Reckon Int :=
  match steps with
  | 0 => fail "too deep"
  | steps + 1 => do
      let a ← both steps set live
      if ← isNow "||" then
        advance
        let b ← either steps set (live && a = 0)
        return ofBool (a ≠ 0 || b ≠ 0)
      else return a

/-- The value of what is joined by `&&`. -/
def both (steps : Nat) (set : Text → Text → Act Unit) (live : Bool) : Reckon Int :=
  match steps with
  | 0 => fail "too deep"
  | steps + 1 => do
      let a ← upTo steps set live 8
      if ← isNow "&&" then
        advance
        let b ← both steps set (live && a ≠ 0)
        return ofBool (a ≠ 0 && b ≠ 0)
      else return a

/-- The value of what is joined by operators of the levels below a bound. -/
def upTo (steps : Nat) (set : Text → Text → Act Unit) (live : Bool) (bound : Nat) : Reckon Int :=
  match steps with
  | 0 => fail "too deep"
  | steps + 1 => do
      let a ← primary steps set live
      onward steps set live bound a

/-- Works off the operators of the levels below a bound, given the value on their left. -/
def onward (steps : Nat) (set : Text → Text → Act Unit) (live : Bool) (bound : Nat) (a : Int) :
    Reckon Int :=
  match steps with
  | 0 => fail "too deep"
  | steps + 1 => do
      match ← binary? with
      | some (name, level, f) =>
          if bound ≤ level then return a
          else
            advance
            let b ← upTo steps set live level
            let c ← if live then apply name f a b else pure b
            onward steps set live bound c
      | none => return a

/-- The value of a number, a variable, or an expression in parentheses. -/
def primary (steps : Nat) (set : Text → Text → Act Unit) (live : Bool) : Reckon Int :=
  match steps with
  | 0 => fail "too deep"
  | steps + 1 => do
      match (← get).now with
      | .number n => do
          advance
          return n
      | .name name => do
          advance
          if live then valueOf name else return 0
      | .operator t =>
          if t = ['('] then
            advance
            let a ← assignment steps set live
            if !(← isNow ")") then fail "expecting ')'"
            advance
            return a
          else if t = ['+'] then
            advance
            primary steps set live
          else if t = ['-'] then
            advance
            return Integer.wrap (-(← primary steps set live))
          else if t = ['!'] then
            advance
            return ofBool ((← primary steps set live) = 0)
          else if t = ['~'] then
            advance
            return -(← primary steps set live) - 1
          else fail "expecting primary"
      | _ => fail "expecting primary"

end

def whole (set : Text → Text → Act Unit) (steps : Nat) : Reckon Int := do
  advance
  let n ← assignment steps set true
  if (← get).now ≠ .ended then fail "expecting EOF"
  return n

/-- The value of an expression; `set` sets a variable. -/
def value (set : Text → Text → Act Unit) (t : Text) : Act Int := do
  let (n, _) ← (whole set (16 * t.length + 32)).run { whole := t, rest := t }
  return n

end Reckon

end Conformance.Shell
