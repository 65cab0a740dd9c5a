import Conformance.Host.Shell.Descriptor

/-!
Conditions: comparisons of texts and integers, and questions about files, joined by `-a`, `-o`, `!`
and parentheses.  Whether a word is an operator depends on what follows it.
-/

namespace Conformance.Shell

/-- The words of a condition that are left. -/
abbrev Conditional := StateT (List Text) Act

namespace Conditional

def integerRelations : List (Text × (Int → Int → Bool)) :=
  [("-eq", fun a b => decide (a = b)), ("-ne", fun a b => decide (a ≠ b)),
    ("-lt", fun a b => decide (a < b)), ("-le", fun a b => decide (a ≤ b)),
    ("-gt", fun a b => decide (a > b)), ("-ge", fun a b => decide (a ≥ b))].map fun (w, f) =>
      (w.toList, f)

/-- Does a text come before another one by its characters? -/
def before (a b : Text) : Bool :=
  a.lex b fun c d => c.toNat < d.toNat

def textRelations : List (Text × (Text → Text → Bool)) :=
  [("=", fun a b => decide (a = b)), ("!=", fun a b => decide (a ≠ b)), ("<", before),
    (">", fun a b => before b a)].map fun (w, f) => (w.toList, f)

def fileRelations : List Text :=
  ["-nt", "-ot", "-ef"].map String.toList

def binary : List Text :=
  textRelations.map Prod.fst ++ integerRelations.map Prod.fst ++ fileRelations

def unary : List Text :=
  ["-r", "-w", "-x", "-e", "-f", "-d", "-c", "-b", "-p", "-u", "-g", "-k", "-s", "-t", "-z", "-n",
    "-h", "-O", "-G", "-L", "-S"].map String.toList

def joining : List Text :=
  ["!", "-a", "-o", "(", ")"].map String.toList

/-- Is the word at the front an operand, although it could be a question? -/
def isOperand : List Text → Bool
  | [_] => true
  | [_, _] => false
  | _ :: next :: _ => next ∈ binary
  | [] => true

/-- The operator at the front, if the word there counts as one. -/
def operator? (ws : List Text) : Option Text :=
  match ws with
  | [] => none
  | w :: rest =>
      if w ∈ binary then some w
      else if w ∈ unary then if isOperand ws then none else some w
      else if w ∈ joining then if w = ['('] && rest = [] then none else some w
      else none

/-- The condition is wrong at a word; an empty one is not shown. -/
def fail {α : Type} (w : Text) (cause : String) : Conditional α :=
  Act.fail (if w = [] then cause.toList else w ++ ": ".toList ++ cause.toList)

def integer (t : Text) : Conditional Int :=
  match Integer.whole? Integer.decimal? t with
  | some n => return n
  | none => Act.fail ("Illegal number: ".toList ++ t)

/-- The answer to a question about what stands at a path.  A stream without a path is a pipe. -/
def askTarget (question : Char) (t : Act.Target) : Bool :=
  match question, t with
  | 'f', .node ⟨_, .file _ _⟩ => true
  | 'd', .node ⟨_, .folder _ _⟩ => true
  | 'c', .node ⟨_, .device _⟩ => true
  | 'p', .stream _ => true
  | 's', .node ⟨_, .file content _⟩ => !content.isEmpty
  | 's', .node ⟨_, .folder _ _⟩ => true
  | 'x', .node ⟨_, .file _ executable⟩ => executable
  | 'x', .node ⟨_, .folder _ _⟩ => true
  | c, _ => c ∈ "erwOG".toList

/-- The answer to a question about a word. -/
def ask (question w : Text) : Conditional Bool := do
  match question with
  | ['-', 'n'] => return w ≠ []
  | ['-', 'z'] => return w = []
  | ['-', 't'] => do
      let _ ← integer w
      return false
  | ['-', 'h'] => Act.isLink w
  | ['-', 'L'] => Act.isLink w
  | ['-', c] => do
      match ← (Act.target w : Act _) with
      | .ok t => return askTarget c t
      | .error _ => return false
  | _ => return false

/-- The value of a comparison of two words. -/
def compare (a op b : Text) : Conditional Bool := do
  match textRelations.lookup op, integerRelations.lookup op with
  | some r, _ => return r a b
  | none, some r => do
      let m ← integer a
      let n ← integer b
      return r m n
  | none, none => do
      match ← (Act.locate a : Act _), ← (Act.locate b : Act _) with
      | .ok x, .ok y => return op = "-ef".toList && x.trail = y.trail
      | _, _ => return false

/-- The operator behind the word at the front. -/
def behind? : Conditional (Option Text) := do
  return operator? ((← get).drop 1)

def skip (n : Nat) : Conditional Unit :=
  modify fun ws => ws.drop n

mutual

/-- The value of conditions of which one has to hold; the operator at the front is known. -/
def anyOf (steps : Nat) (op : Option Text) : Conditional Bool :=
  match steps with
  | 0 => fail [] "too deep"
  | steps + 1 => do
      let a ← allOf steps op
      if (← behind?) = some "-o".toList then
        skip 2
        let b ← anyOf steps (operator? (← get))
        return a || b
      else return a

/-- The value of conditions that all have to hold. -/
def allOf (steps : Nat) (op : Option Text) : Conditional Bool :=
  match steps with
  | 0 => fail [] "too deep"
  | steps + 1 => do
      let a ← negated steps op
      if (← behind?) = some "-a".toList then
        skip 2
        let b ← allOf steps (operator? (← get))
        return a && b
      else return a

/-- The value of a condition behind any count of negations. -/
def negated (steps : Nat) (op : Option Text) : Conditional Bool :=
  match steps with
  | 0 => fail [] "too deep"
  | steps + 1 => do
      if op = some ['!'] then
        if ((← get).drop 1) = [] then return true
        let next ← behind?
        skip 1
        return !(← negated steps next)
      else single steps op

/-- The value of a condition that is not joined to another one. -/
def single (steps : Nat) (op : Option Text) : Conditional Bool :=
  match steps with
  | 0 => fail [] "too deep"
  | steps + 1 => do
      match ← get, op with
      | [], _ => return false
      | w :: rest, op =>
          if op = some ['('] then
            skip 1
            let next := operator? rest
            if next = some [')'] then return false
            else
              let a ← anyOf steps next
              skip 1
              if operator? (← get) ≠ some [')'] then
                Act.fail "closing paren expected".toList
              return a
          else if op.any (· ∈ unary) then
            match rest with
            | [] => fail w "argument expected"
            | a :: _ => do
                skip 1
                ask w a
          else
            match rest, (operator? rest).any (· ∈ binary) with
            | o :: b :: _, true => do
                skip 2
                compare w o b
            | o :: [], true => fail o "argument expected"
            | _, _ => return w ≠ []

end

/-- The value of the words of a condition that is not cut short. -/
def whole (op : Option Text) : Conditional Bool := do
  let a ← anyOf (8 * (← get).length + 8) op
  match ← get with
  | w :: _ :: _ => fail w "unexpected operator"
  | _ => return a

/-- The value of a condition.  Three and four words are looked at as a whole first.  Each step
leaves out a word. -/
def value : Nat → List Text → Act Bool
  | 0, _ => return false
  | _ + 1, [] => return false
  | steps + 1, first :: rest =>
      let ws := first :: rest
      let operand : Act Bool := return (← (whole none).run ws).1
      let plain : Act Bool := return (← (whole (operator? ws)).run ws).1
      let four := fun (_ : Unit) =>
        if first = ['('] && rest.getLast? = some [')'] then do
          let inner := rest.dropLast
          return (← (whole (operator? inner)).run inner).1
        else if first = ['!'] then do
          return !(← value steps rest)
        else plain
      match rest with
      | [op, _] => if op ∈ binary then operand else four ()
      | [_, _, _] => four ()
      | _ => plain

end Conditional

end Conformance.Shell
