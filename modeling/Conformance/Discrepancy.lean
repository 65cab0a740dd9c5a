import Conformance.Expectation
import Conformance.Finding

/-!
The ways in which a run can differ from what its script declares, and the finding that reports
each of them.
-/

namespace Conformance

/-- One difference between a run and its expectation. -/
inductive Discrepancy where
  /-- A compile error that the script does not declare. -/
  | unexpectedError (piece : Text)
  /-- Text on standard error that is no compile error. -/
  | strayError (piece : Text)
  /-- So many further pieces of standard error were not expected either. -/
  | truncated (count : Nat)
  /-- A declared compile error that the run does not report. -/
  | missingError (label : Text)
  /-- No runtime error at all. -/
  | noRuntimeError (expected : Text)
  /-- A runtime error with another message. -/
  | otherRuntimeError (expected actual : Text)
  /-- No stack trace below the runtime error. -/
  | noTrace (actual : List Text)
  /-- A runtime error on another line; the actual line as the stack trace writes it. -/
  | otherLine (expected : Nat) (actual : Text)
  /-- Another exit code, with the first pieces of standard error. -/
  | otherExit (expected actual : Int) (context : List Text)
  /-- An output line after all declared ones. -/
  | surplusOutput (actual : Text)
  /-- An output line with another text. -/
  | otherOutput (expected : ExpectedOutput) (actual : Text)
  /-- A declared output line that is not printed. -/
  | missingOutput (expected : ExpectedOutput)
deriving DecidableEq, Repr

namespace Discrepancy

def quoted (t : Text) : Text :=
  '\'' :: t ++ ['\'']

def message : Discrepancy → Text
  | .unexpectedError _ => "Unexpected error:".toList
  | .strayError _ => "Unexpected output on stderr:".toList
  | .truncated count =>
      "(truncated ".toList ++ Numeral.ofNat count ++ " more...)".toList
  | .missingError label => "Missing expected error: ".toList ++ label
  | .noRuntimeError expected =>
      "Expected runtime error ".toList ++ quoted expected ++ " and got none.".toList
  | .otherRuntimeError expected _ =>
      "Expected runtime error ".toList ++ quoted expected ++ " and got:".toList
  | .noTrace _ => "Expected stack trace and got:".toList
  | .otherLine expected actual =>
      "Expected runtime error on line ".toList ++ Numeral.ofNat expected ++
        " but was on line ".toList ++ actual ++ ".".toList
  | .otherExit expected actual _ =>
      "Expected return code ".toList ++ Numeral.ofInt expected ++ " and got ".toList ++
        Numeral.ofInt actual ++ ". Stderr:".toList
  | .surplusOutput actual =>
      "Got output ".toList ++ quoted actual ++ " when none was expected.".toList
  | .otherOutput expected actual =>
      "Expected output ".toList ++ quoted expected.text ++ " on line ".toList ++
        Numeral.ofNat expected.line ++ " and got ".toList ++ quoted actual ++ ".".toList
  | .missingOutput expected =>
      "Missing expected output ".toList ++ quoted expected.text ++ " on line ".toList ++
        Numeral.ofNat expected.line ++ ".".toList

def details : Discrepancy → List Text
  | .unexpectedError piece => [piece]
  | .strayError piece => [piece]
  | .otherRuntimeError _ actual => [actual]
  | .noTrace actual => actual
  | .otherExit _ _ context => context
  | _ => []

def finding (d : Discrepancy) : Finding :=
  ⟨d.message, d.details⟩

end Discrepancy

end Conformance
