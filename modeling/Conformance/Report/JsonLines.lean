import Conformance.Decimal.Shortest
import Conformance.Event
import Conformance.Json

/-!
The report for other programs: one line of JSON for each script, and a summary on the last line.
-/

namespace Conformance.Report

def version : Text := "0.1.0".toList

/-- A duration as a floating-point count of seconds. -/
def seconds (d : Duration) : Float :=
  let carried := d.seconds + d.nanoseconds / 1000000000
  Float.ofNat carried + Float.ofNat (d.nanoseconds % 1000000000) / 1000000000.0

/-- Digits with their point.  From 0.00001 up to sixteen digits before the point they are written
out, with at least one digit on either side; otherwise an exponent follows one digit. -/
def placeDigits (d : Decimal.Digits) : Text :=
  let length : Int := d.digits.length
  if 0 < d.point ∧ d.point ≤ 16 then
    if length ≤ d.point then
      d.digits ++ List.replicate (d.point - length).toNat '0' ++ ".0".toList
    else d.digits.take d.point.toNat ++ '.' :: d.digits.drop d.point.toNat
  else if -5 < d.point ∧ d.point ≤ 0 then
    "0.".toList ++ List.replicate (-d.point).toNat '0' ++ d.digits
  else
    let fraction := if d.digits.length ≤ 1 then [] else '.' :: d.digits.drop 1
    let sign := if d.point > 0 then ['+'] else []
    d.digits.take 1 ++ fraction ++ 'e' :: sign ++ Numeral.ofInt (d.point - 1)

/-- The shortest text of a finite number that is not negative. -/
def number (x : Float) : Text :=
  match Decimal.magnitude x with
  | .finite 0 _ => "0.0".toList
  | .finite m e => placeDigits (Decimal.shortest m e)
  | _ => "null".toList

namespace JsonLines

def finding (f : Finding) : Json :=
  .object [("details".toList, .list (f.details.map .text)), ("message".toList, .text f.message)]

/-- The line for a script, with its members in the order of their names. -/
def file (path : Path) (o : Outcome) : Json :=
  let rest := [("path".toList, .text path), ("status".toList, .text o.status)]
  match o with
  | .failed findings =>
      .object (("failures".toList, .list (findings.map finding)) :: rest)
  | .invalid _ => .object (("error".toList, .text Contradiction.message) :: rest)
  | _ => .object rest

def count (n : Nat) : Json :=
  .number (Numeral.ofNat n)

def summary (t : Tally) (elapsed : Duration) : Json :=
  .object
    [("duration_secs".toList, .number (number (seconds elapsed))),
      ("summary".toList, .object
        [("expectations".toList, count t.expectations), ("failed".toList, count t.failed),
          ("invalid".toList, count t.invalid), ("passed".toList, count t.passed),
          ("skipped".toList, count t.skipped)]),
      ("version".toList, .text version)]

/-- A value on a line of its own. -/
def line (value : Json) : Text :=
  value.render ++ ['\n']

def report : Report
  | .suiteStart _ => []
  | .fileStart _ _ => []
  | .fileComplete path outcome _ => [line (file path outcome)]
  | .suiteComplete tally elapsed => [line (summary tally elapsed)]

end JsonLines

end Conformance.Report
