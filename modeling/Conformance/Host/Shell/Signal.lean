import Conformance.Numeral

/-!
Signals by name and number, and what they do to a process that does not handle them.
-/

namespace Conformance.Shell.Signal

/-- The names of the signals that have one of their own; the first one has number one. -/
def named : List Text :=
  ["HUP", "INT", "QUIT", "ILL", "TRAP", "ABRT", "BUS", "FPE", "KILL", "USR1", "SEGV", "USR2",
    "PIPE", "ALRM", "TERM", "16", "CHLD", "CONT", "STOP", "TSTP", "TTIN", "TTOU", "URG",
    "XCPU", "XFSZ", "VTALRM", "PROF", "WINCH", "IO", "PWR", "SYS", "32", "33"].map String.toList

/-- The names of the signals without a meaning, which are counted from either end. -/
def counted : List Text :=
  let behind := (List.range 15).map fun n => "RTMIN+".toList ++ Numeral.ofNat (n + 1)
  let before := (List.range 14).map fun n => "RTMAX-".toList ++ Numeral.ofNat (14 - n)
  ["RTMIN".toList] ++ behind ++ before ++ ["RTMAX".toList]

def names : List Text :=
  named ++ counted

/-- The signals that are sent from a keyboard. -/
def interrupt : Nat := 2

@[inherit_doc interrupt] def quit : Nat := 3

/-- The signal that asks a process to end. -/
def terminate : Nat := 15

def pipe : Nat := 13

def greatest : Nat := 64

def numbered? (t : Text) : Option Nat :=
  (Numeral.value? t).filter (· ≤ greatest)

/-- The number of a signal that is named, in letters of any case, or numbered. -/
def number? (t : Text) : Option Nat :=
  if Numeral.isNumeral t then numbered? t
  else (names.findIdx? (· = t.map Char.toUpper)).map (· + 1)

/-- The number of what a trap is for: a signal, or the end of the shell, which has number zero. -/
def trapped? (t : Text) : Option Nat :=
  if t.map Char.toUpper = "EXIT".toList then some 0 else number? t

/-- The name of what a trap is for. -/
def trapName (n : Nat) : Text :=
  if n = 0 then "EXIT".toList else (names[n - 1]?).getD []

/-- The name of a signal, also given the exit code of a process that it ended. -/
def name? (n : Nat) : Option Text :=
  let n := if 128 < n then n - 128 else n
  if n = 0 then none else names[n - 1]?

/-- Does a process outlive the signal?  Number zero is no signal, and those about children, about
going on, about urgent data and about windows change nothing. -/
def isHarmless (n : Nat) : Bool :=
  n ∈ [0, 17, 18, 23, 28]

/-- Is the signal one that no process can handle? -/
def isCertain (n : Nat) : Bool :=
  n ∈ [9, 19]

def descriptions : List Text :=
  ["Hangup", "Interrupt", "Quit", "Illegal instruction", "Trace/breakpoint trap", "Aborted",
    "Bus error", "Floating point exception", "Killed", "User defined signal 1",
    "Segmentation fault", "User defined signal 2", "Broken pipe", "Alarm clock", "Terminated",
    "Stack fault", "Child exited", "Continued", "Stopped (signal)", "Stopped",
    "Stopped (tty input)", "Stopped (tty output)", "Urgent I/O condition",
    "CPU time limit exceeded", "File size limit exceeded", "Virtual timer expired",
    "Profiling timer expired", "Window changed", "I/O possible", "Power failure",
    "Bad system call"].map String.toList

/-- The number of the first signal without a meaning. -/
def firstCounted : Nat := 34

def description (n : Nat) : Text :=
  match descriptions[n - 1]? with
  | some t => t
  | none =>
      if firstCounted ≤ n then "Real-time signal ".toList ++ Numeral.ofNat (n - firstCounted)
      else "Unknown signal ".toList ++ Numeral.ofNat n

/-- Is it told that the signal has ended a process? -/
def isTold (n : Nat) : Bool :=
  n ∉ [interrupt, pipe]

end Conformance.Shell.Signal
