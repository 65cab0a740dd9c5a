import Conformance.Host.Shell.Field

/-!
The printing commands.  A format holds text, escape sequences and fields; it is used again as long
as it takes arguments and some are left.
-/

namespace Conformance.Shell

/-- What printing has come to: the arguments that are left, the output and the complaints, each with
the last part first.  Printing is over when `done` holds. -/
structure Printing where
  args : List Text
  used : Bool := false
  output : List Text := []
  complaints : List Text := []
  status : Nat := 0
  done : Bool := false
deriving DecidableEq, Repr

namespace Printing

def echo (args : List Text) : Text :=
  let (newline, args) :=
    match args with
    | ['-', 'n'] :: rest => (false, rest)
    | args => (true, args)
  let (t, stop) := Escape.replaceAll (joinWith ' ' args)
  if newline && !stop then t ++ ['\n'] else t

def put (p : Printing) (t : Text) : Printing :=
  { p with output := t :: p.output }

/-- Takes the next argument, which is empty if there are no more. -/
def next (p : Printing) : Text × Printing :=
  (p.args.headD [], { p with args := p.args.drop 1, used := true })

def complain (p : Printing) : Option Text → Printing
  | some t => { p with complaints := t :: p.complaints, status := 1 }
  | none => p

def putShown (p : Printing) (s : Shown) : Printing :=
  { (p.put s.text).complain s.complaint with done := s.stop }

def fail (p : Printing) (complaint : Text) : Printing :=
  { p with complaints := complaint :: p.complaints, status := 2, done := true }

def greatestWidth : Int := 0x7fffffff

/-- Reads a count in a field, which is written out or taken from an argument, of which a half word
counts. -/
def count (p : Printing) : Text → Int × Text × Printing
  | '*' :: t =>
      let (arg, p) := p.next
      let (n, complaint) := Field.integerOf Integer.least Integer.greatest arg
      (n.bmod Integer.halfWords, t, p.complain complaint)
  | t =>
      let digits := t.takeWhile Char.isDigit
      ((Numeral.value? digits).getD 0, t.drop digits.length, p)

/-- Prints the field behind a percent sign, and gives what follows it. -/
def field (p : Printing) (t : Text) : Text × Printing :=
  let flags := t.takeWhile fun c => c ∈ "#-+ 0".toList
  let (width, rest, p) := p.count (t.drop flags.length)
  let flags := if width < 0 then '-' :: flags else flags
  let (places, rest, p) :=
    match rest with
    | '.' :: rest =>
        let (places, rest, p) := p.count rest
        (if places < 0 then none else some places.toNat, rest, p)
    | rest => (none, rest, p)
  match rest with
  | [] => ([], p.fail "missing format character".toList)
  | letter :: rest =>
      let isTooWide := greatestWidth < width ∨ places.any fun n => greatestWidth < n
      let f : Field :=
        if isTooWide then { letter := letter }
        else { flags := flags, width := width.natAbs, places := places, letter := letter }
      let (arg, after) := p.next
      match f.shown? arg with
      | some s =>
          if isTooWide then ([], p.fail "xvsnprintf failed".toList) else (rest, after.putShown s)
      | none =>
          let directive := '%' :: t.take (t.length - rest.length)
          ([], p.fail (directive ++ ": invalid directive".toList))

/-- One pass over a format.  Each step uses up a character of it. -/
def pass : Nat → Text → Printing → Printing
  | 0, _, p => p
  | _ + 1, [], p => p
  | steps + 1, c :: t, p =>
      if p.done then p
      else if c = '\\' then
        let (d, t) := Escape.read t
        pass steps t (p.put [d])
      else if c ≠ '%' then pass steps t (p.put [c])
      else if t.head? = some '%' then pass steps (t.drop 1) (p.put ['%'])
      else
        let (t, p) := p.field t
        pass steps t p

/-- Uses the format as long as it takes arguments and some are left. -/
def rounds (format : Text) : Nat → Printing → Printing
  | 0, p => p
  | n + 1, p =>
      let p := pass (format.length + 1) format { p with used := false }
      if p.used && p.args ≠ [] && !p.done then rounds format n p else p

/-- What printf does with a format and arguments. -/
def printf (format : Text) (args : List Text) : Printing :=
  rounds format (args.length + 1) { args := args }

def text (p : Printing) : Text :=
  p.output.reverse.flatten

end Printing

end Conformance.Shell
