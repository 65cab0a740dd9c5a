import Conformance.Text

/-!
Command lines made of options and positional arguments.  An option has a long name, maybe a short
one, and takes one value or none.  A value may be attached to its option or come as the next
argument; it is looked at only when the next option, the next positional argument or the end shows
that it is complete.
-/

namespace Conformance.CommandLine

/-- Why a command line is not taken: it is wrong, or it only asks for a text. -/
inductive UsageError where
  | missingArgument
  | unknownArgument
  | invalidValue
  | malformedValue
  | repeated
  | unneededValue
  | helpRequested
  | versionRequested
deriving DecidableEq, Repr

def UsageError.exitCode : UsageError → Int
  | .helpRequested => 0
  | .versionRequested => 0
  | _ => 2

variable {σ : Type}

/-- An option: what it does to the arguments read so far, with or without a value. -/
inductive Switch (σ : Type) where
  | flag (set : σ → Except UsageError σ)
  | value (set : Text → σ → Except UsageError σ)

/-- The options of a program, and what a positional argument does if there may be any. -/
structure Grammar (σ : Type) where
  long : Text → Option (Switch σ)
  short : Char → Option (Switch σ)
  positional : Option (Text → σ → Except UsageError σ)

/-- An option that waits for its value, or whose value has not been looked at yet. -/
structure Pending (σ : Type) where
  set : Text → σ → Except UsageError σ
  given : Option Text

/-- The arguments read so far, and the option that is not finished. -/
structure Progress (σ : Type) where
  args : σ
  pending : Option (Pending σ) := none

namespace Progress

/-- The arguments once the unfinished option is finished; it must have a value. -/
def settle (p : Progress σ) : Except UsageError σ :=
  match p.pending with
  | none => .ok p.args
  | some ⟨_, none⟩ => .error .invalidValue
  | some ⟨set, some v⟩ => set v p.args

/-- Finishes the unfinished option and sets another one. -/
def set (p : Progress σ) (f : σ → Except UsageError σ) : Except UsageError (Progress σ) := do
  let args ← p.settle
  return { args := ← f args }

/-- Finishes the unfinished option and starts another one. -/
def await (p : Progress σ) (f : Text → σ → Except UsageError σ) :
    Except UsageError (Progress σ) := do
  let args ← p.settle
  return { args := args, pending := some ⟨f, none⟩ }

end Progress

namespace Grammar

/-- Reads a long option, given the text behind the dashes. -/
def readLong (g : Grammar σ) (t : Text) (p : Progress σ) : Except UsageError (Progress σ) :=
  let name := t.takeWhile (· ≠ '=')
  match g.long name, t.drop name.length with
  | none, _ => .error .unknownArgument
  | some (.flag set), [] => p.set set
  | some (.flag _), _ :: _ => .error .unneededValue
  | some (.value set), [] => p.await set
  | some (.value set), _ :: v => p.set (set v)

/-- Reads short options that share a dash; the first one that takes a value takes the rest. -/
def readShort (g : Grammar σ) : Text → Progress σ → Except UsageError (Progress σ)
  | [], p => .ok p
  | c :: t, p =>
      match g.short c, t with
      | none, _ => .error .unknownArgument
      | some (.flag set), t => do
          let p ← p.set set
          readShort g t p
      | some (.value set), [] => p.await set
      | some (.value set), '=' :: v => p.set (set v)
      | some (.value set), v => p.set (set v)

def readPositional (g : Grammar σ) (t : Text) (p : Progress σ) :
    Except UsageError (Progress σ) :=
  match g.positional with
  | none => .error .unknownArgument
  | some set => p.set (set t)

/-- Reads an argument that is no option: the value of an option that waits for one, or a
positional argument. -/
def readValue (g : Grammar σ) (t : Text) (p : Progress σ) : Except UsageError (Progress σ) :=
  match p.pending with
  | some ⟨set, none⟩ => .ok { p with pending := some ⟨set, some t⟩ }
  | _ => g.readPositional t p

def readOne (g : Grammar σ) (t : Text) (p : Progress σ) : Except UsageError (Progress σ) :=
  match t with
  | '-' :: '-' :: name => g.readLong name p
  | '-' :: c :: rest => g.readShort (c :: rest) p
  | t => g.readValue t p

/-- Reads all arguments; two dashes alone make every later argument positional. -/
def readAll (g : Grammar σ) (optionsEnded : Bool) : List Text → Progress σ → Except UsageError σ
  | [], p => p.settle
  | t :: rest, p =>
      if optionsEnded then do
        let p ← g.readPositional t p
        readAll g true rest p
      else if t = ['-', '-'] then readAll g true rest p
      else do
        let p ← g.readOne t p
        readAll g false rest p

/-- Reads a command line, starting from arguments that are not given. -/
def read (g : Grammar σ) (start : σ) (args : List Text) : Except UsageError σ :=
  g.readAll false args { args := start }

end Grammar

/-- Sets an option that may be given once. -/
def once {α : Type} (old : Option α) (read : Text → Except UsageError α) (t : Text) :
    Except UsageError (Option α) :=
  if old.isSome then .error .repeated else some <$> read t

/-- Reads a path, which may not be empty. -/
def path (t : Text) : Except UsageError Text :=
  if t = [] then .error .invalidValue else .ok t

def help : Switch σ := .flag fun _ => .error .helpRequested

def version : Switch σ := .flag fun _ => .error .versionRequested

end Conformance.CommandLine
