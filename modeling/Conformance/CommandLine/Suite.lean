import Conformance.CommandLine.Grammar
import Conformance.Suite.Settings

/-!
The command line of the suite runner.
-/

namespace Conformance.CommandLine

/-- The arguments of the suite runner as far as they are given. -/
structure SuiteArguments where
  interpreter : Option Path := none
  root : Option Path := none
  strict : Bool := false
  format : Option ReportFormat := none
deriving DecidableEq, Repr

namespace SuiteArguments

def readFormat (t : Text) : Except UsageError ReportFormat :=
  if t = "console".toList then .ok .console
  else if t = "json".toList then .ok .json
  else .error .invalidValue

def interpreterSwitch : Switch SuiteArguments := .value fun t a => do
  return { a with interpreter := ← once a.interpreter path t }

def long (name : Text) : Option (Switch SuiteArguments) :=
  [("interpreter".toList, interpreterSwitch),
    ("root".toList, .value fun t a => do return { a with root := ← once a.root path t }),
    ("strict-output".toList, .flag fun a =>
      if a.strict then .error .repeated else .ok { a with strict := true }),
    ("format".toList, .value fun t a => do
      return { a with format := ← once a.format readFormat t }),
    ("help".toList, help), ("version".toList, version)].lookup name

def short (c : Char) : Option (Switch SuiteArguments) :=
  [('i', interpreterSwitch), ('h', help), ('V', version)].lookup c

/-- The options of the suite runner; there are no positional arguments. -/
def grammar : Grammar SuiteArguments where
  long := long
  short := short
  positional := none

/-- The settings that the arguments ask for, once the interpreter is known. -/
def settings (a : SuiteArguments) (interpreter : Path) : Suite.Settings :=
  { interpreter := interpreter
    root := a.root.getD "test".toList
    check := { extent := if a.strict then .strict else .lenient }
    format := a.format.getD .console }

end SuiteArguments

def readSuite (args : List Text) : Except UsageError Suite.Settings := do
  let a ← SuiteArguments.grammar.read {} args
  match a.interpreter with
  | none => .error .missingArgument
  | some interpreter => return a.settings interpreter

end Conformance.CommandLine
