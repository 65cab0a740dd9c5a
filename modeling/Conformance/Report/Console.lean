import Conformance.Event
import Conformance.Numeral

/-!
The report for a terminal.  A progress line is drawn for each script and erased before anything
lasting is written; failed and invalid scripts are listed, and a summary comes last.
-/

namespace Conformance.Report

/-- How the report for a terminal looks. -/
structure Console where
  color : Bool := false
  progress : Bool := false
deriving DecidableEq, Repr

namespace Console

inductive Color where
  | green
  | magenta
  | red
  | yellow
  | gray

/-- The sequence that starts a colour. -/
def Color.start : Color → Text
  | .green => "\x1b[32m".toList
  | .magenta => "\x1b[35m".toList
  | .red => "\x1b[31m".toList
  | .yellow => "\x1b[33m".toList
  | .gray => "\x1b[1;30m".toList

def reset : Text := "\x1b[0m".toList

def eraseLine : Text := "\r\x1b[K".toList

/-- A text in a colour, if colours are on. -/
def paint (c : Console) (color : Color) (t : Text) : Text :=
  if c.color then color.start ++ t ++ reset else t

def progressLine (c : Console) (path : Path) (t : Tally) : Text :=
  "Passed: ".toList ++ c.paint .green (Numeral.ofNat t.passed) ++
    " Failed: ".toList ++ c.paint .red (Numeral.ofNat t.failed) ++
    " Skipped: ".toList ++ c.paint .yellow (Numeral.ofNat t.skipped) ++
    " ".toList ++ c.paint .gray path

/-- A line below the heading of a script. -/
def indented (t : Text) : Text :=
  "     ".toList ++ t ++ ['\n']

/-- The heading of a script that is listed. -/
def heading (word path : Text) : Text :=
  word ++ ' ' :: path ++ ['\n']

/-- The lasting lines for the outcome of a script; a script that passed or is no test has none. -/
def listing (c : Console) (path : Path) : Outcome → List Text
  | .passed => []
  | .skipped => []
  | .failed findings =>
      heading (c.paint .red "FAIL".toList) path ::
        (findings.flatMap Finding.lines).map fun line => indented (c.paint .red line)
  | .invalid _ =>
      [heading (c.paint .magenta "TEST_ERROR".toList) path,
        indented Contradiction.message,
        indented ("help: ".toList ++ Contradiction.help),
        ['\n']]

def summary (c : Console) (t : Tally) : Text :=
  let passed := c.paint .green (Numeral.ofNat t.passed)
  let expectations := " (".toList ++ Numeral.ofNat t.expectations ++ " expectations).\n".toList
  if t.allPassed then
    "All ".toList ++ passed ++ " tests passed".toList ++ expectations
  else
    passed ++ " tests passed. ".toList ++ c.paint .red (Numeral.ofNat t.failed) ++
      " tests failed".toList ++ expectations

def report (c : Console) : Report
  | .suiteStart _ => []
  | .fileStart path tally => if c.progress then [c.progressLine path tally] else []
  | .fileComplete path outcome _ =>
      (if c.progress then [eraseLine] else []) ++ c.listing path outcome
  | .suiteComplete tally _ => [c.summary tally]

end Console

end Conformance.Report
