import Conformance.Host.Shell.Descriptor

/-!
Options and numbers in the arguments of built-in commands.
-/

namespace Conformance.Shell.Act

/-- Reads options: letters behind a hyphen, each of which may take an argument.  Two hyphens end
them.  Each option is looked at before the next one is read.  Each step uses up a character or an
argument. -/
def optionsFrom (allowed : List (Char × Bool)) (look : Char → Text → Act Unit) :
    Nat → Text → List Text → Act (List (Char × Text) × List Text)
  | 0, _, args => return ([], args)
  | steps + 1, [], args =>
      match args with
      | ('-' :: c :: t) :: rest =>
          if c = '-' && t = [] then return ([], rest)
          else optionsFrom allowed look steps (c :: t) rest
      | args => return ([], args)
  | steps + 1, c :: t, args => do
      let (arg, t, args) ←
        match allowed.lookup c, t, args with
        | none, _, _ => fail ("Illegal option -".toList ++ [c])
        | some false, t, args => pure ([], t, args)
        | some true, [], [] => fail ("No arg for -".toList ++ c :: " option".toList)
        | some true, [], arg :: args => pure (arg, [], args)
        | some true, t, args => pure (t, [], args)
      look c arg
      let (more, args) ← optionsFrom allowed look steps t args
      return ((c, arg) :: more, args)

/-- The options at the start of arguments, each of which is looked at, and the arguments behind
them. -/
def optionsThrough (allowed : List (Char × Bool)) (look : Char → Text → Act Unit)
    (args : List Text) : Act (List (Char × Text) × List Text) :=
  optionsFrom allowed look (args.flatten.length + args.length + 1) [] args

/-- The options at the start of arguments, and the arguments behind them. -/
def options (allowed : List (Char × Bool)) (args : List Text) :
    Act (List (Char × Text) × List Text) :=
  optionsThrough allowed (fun _ _ => return) args

/-- The arguments behind the options of a command that knows none. -/
def operands (args : List Text) : Act (List Text) :=
  return (← options [] args).2

def refuseCount {α : Type} (t : Text) : Act α :=
  fail ("Illegal number: ".toList ++ t)

def count (t : Text) : Act Nat := do
  match Integer.count? t with
  | some n => return n
  | none => refuseCount t

/-- The count that an argument names, which must not be zero. -/
def positive (t : Text) : Act Nat := do
  let n ← count t
  if n = 0 then refuseCount t else return n

end Conformance.Shell.Act
