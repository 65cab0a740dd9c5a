import Conformance.Proofs.Check
import Conformance.Proofs.Occurrence

/-!
The check for a declared runtime error.  Its message and its stack trace are judged apart: the first
piece of standard error has to be the message, and of the stack trace entries below it the first one
decides, by the number that its digits stand for, whatever their length.  Nothing else on standard
error counts.
-/

namespace Conformance

variable {line digits : Text} {later : List Text}

/-- The text starts with a stack trace entry that has these digits. -/
def StartsEntry (digits t : Text) : Prop :=
  Text.IsDigits digits ∧ ∃ rest, t = "[line ".toList ++ (digits ++ ']' :: rest)

/-- Somewhere in the line stands a stack trace entry. -/
def HoldsEntry (line : Text) : Prop :=
  ∃ before ending digits, line = before ++ ending ∧ StartsEntry digits ending

/-- The leftmost stack trace entry of the line has these digits. -/
def LeftmostEntry (line digits : Text) : Prop :=
  ∃ before ending, Text.Leftmost (fun t => ∃ digits, StartsEntry digits t) line before ending ∧
    StartsEntry digits ending

/-- The first of the lines that hold a stack trace entry has these digits in its leftmost one. -/
def FirstTrace (lines : List Text) (digits : Text) : Prop :=
  ∃ before line after, lines = before ++ line :: after ∧
    (∀ other ∈ before, ¬ HoldsEntry other) ∧ LeftmostEntry line digits

theorem startsEntry_iff {t : Text} : StartsEntry digits t ↔ traceHere? t = some digits :=
  traceHere?_eq_some_iff.symm

theorem traceLine?_eq_some_iff : traceLine? line = some digits ↔ LeftmostEntry line digits := by
  rw [traceLine?, Text.firstAt_eq_some_iff_leftmost
    (P := fun t => ∃ digits, StartsEntry digits t) fun _ => exists_congr fun _ => startsEntry_iff]
  simp only [LeftmostEntry, startsEntry_iff]

theorem traceLine?_eq_none_iff : traceLine? line = none ↔ ¬ HoldsEntry line := by
  rw [traceLine?, Text.firstAt_eq_none_iff_forall_not
    (P := fun t => ∃ digits, StartsEntry digits t) fun _ => exists_congr fun _ => startsEntry_iff]
  constructor
  · rintro h ⟨before, ending, digits, hsplit, hstarts⟩
    exact h before ending hsplit ⟨digits, hstarts⟩
  · rintro h before ending hsplit ⟨digits, hstarts⟩
    exact h ⟨before, ending, digits, hsplit, hstarts⟩

theorem findSome?_traceLine?_eq_some_iff :
    later.findSome? traceLine? = some digits ↔ FirstTrace later digits := by
  simp only [List.findSome?_eq_some_iff, FirstTrace, traceLine?_eq_some_iff, traceLine?_eq_none_iff]
  constructor
  · rintro ⟨before, line, after, hsplit, hentry, hbefore⟩
    exact ⟨before, line, after, hsplit, hbefore, hentry⟩
  · rintro ⟨before, line, after, hsplit, hbefore, hentry⟩
    exact ⟨before, line, after, hsplit, hentry, hbefore⟩

theorem findSome?_traceLine?_eq_none_iff :
    later.findSome? traceLine? = none ↔ ∀ line ∈ later, ¬ HoldsEntry line := by
  simp only [List.findSome?_eq_none_iff, traceLine?_eq_none_iff]

/-- The lines determine the digits that count. -/
theorem FirstTrace.unique {digits' : Text} (h : FirstTrace later digits)
    (h' : FirstTrace later digits') : digits = digits' := by
  rw [← findSome?_traceLine?_eq_some_iff] at h h'
  exact Option.some.inj (h.symm.trans h')

theorem FirstTrace.not_forall_not (h : FirstTrace later digits) :
    ¬ ∀ line ∈ later, ¬ HoldsEntry line := by
  obtain ⟨before, line, after, rfl, -, start, ending, hleftmost, hstarts⟩ := h
  intro habsent
  exact habsent line (by simp) ⟨start, ending, digits, hleftmost.eq_append, hstarts⟩

namespace Check

def otherLineFinding (number : Nat) (digits : Text) : Finding :=
  ⟨"Expected runtime error on line ".toList ++ Numeral.ofNat number ++ " but was on line ".toList ++
    digits ++ ".".toList, []⟩

def messageFindings (message first : Text) : List Finding :=
  if first = message then []
  else [⟨"Expected runtime error ".toList ++ Discrepancy.quoted message ++ " and got:".toList,
    [first]⟩]

/-- The findings on the stack trace below a runtime error. -/
inductive TraceReport (number : Nat) (later : List Text) : List Finding → Prop
  /-- There is no stack trace. -/
  | absent (h : ∀ line ∈ later, ¬ HoldsEntry line) :
      TraceReport number later [⟨"Expected stack trace and got:".toList, later⟩]
  /-- The stack trace starts on another line. -/
  | elsewhere {digits : Text} (h : FirstTrace later digits)
      (hdigits : ¬ Numeral.Denotes digits number) :
      TraceReport number later [otherLineFinding number digits]
  /-- The stack trace starts on the declared line. -/
  | there {digits : Text} (h : FirstTrace later digits) (hdigits : Numeral.Denotes digits number) :
      TraceReport number later []

variable {number : Nat} {trace : List Finding}

namespace TraceReport

theorem length_le_one (h : TraceReport number later trace) : trace.length ≤ 1 := by
  cases h <;> simp

/-- With a stack trace there is nothing to judge but its line. -/
theorem of_firstTrace (h : TraceReport number later trace) (hfirst : FirstTrace later digits) :
    (Numeral.Denotes digits number ∧ trace = []) ∨
      (¬ Numeral.Denotes digits number ∧ trace = [otherLineFinding number digits]) := by
  cases h with
  | absent h => exact absurd h hfirst.not_forall_not
  | elsewhere h hdigits =>
      obtain rfl := h.unique hfirst
      exact .inr ⟨hdigits, rfl⟩
  | there h hdigits =>
      obtain rfl := h.unique hfirst
      exact .inl ⟨hdigits, rfl⟩

/-- Something is found exactly if there is no trace or its first entry names another line. -/
theorem ne_nil_iff (h : TraceReport number later trace) :
    trace ≠ [] ↔ (∀ line ∈ later, ¬ HoldsEntry line) ∨
      ∃ digits, FirstTrace later digits ∧ ¬ Numeral.Denotes digits number := by
  constructor
  · intro hne
    cases h with
    | absent h => exact .inl h
    | elsewhere h hdigits => exact .inr ⟨_, h, hdigits⟩
    | there h hdigits => exact absurd rfl hne
  · rintro (habsent | ⟨digits, hfirst, hdigits⟩)
    · cases h with
      | absent h => simp
      | elsewhere h hdigits => simp
      | there h hdigits => exact absurd habsent h.not_forall_not
    · rcases h.of_firstTrace hfirst with ⟨hdenotes, -⟩ | ⟨-, rfl⟩
      · exact absurd hdenotes hdigits
      · simp

/-- Digits of ASCII are compared by the number that they stand for. -/
theorem eq_nil_iff_of_denotes {n : Nat} (h : TraceReport number later trace)
    (hfirst : FirstTrace later digits) (hdigits : Numeral.Denotes digits n) :
    trace = [] ↔ n = number := by
  rcases h.of_firstTrace hfirst with ⟨hdenotes, rfl⟩ | ⟨hnot, rfl⟩
  · exact ⟨fun _ => hdigits.unique hdenotes, fun _ => rfl⟩
  · refine ⟨fun hnil => absurd hnil (List.cons_ne_nil _ _), ?_⟩
    rintro rfl
    exact absurd hdigits hnot

/-- Digits of another script are another line. -/
theorem eq_of_not_isDigit {c : Char} (h : TraceReport number later trace)
    (hfirst : FirstTrace later digits) (hc : c ∈ digits) (hdigit : c.isDigit = false) :
    trace = [otherLineFinding number digits] := by
  rcases h.of_firstTrace hfirst with ⟨hdenotes, -⟩ | ⟨-, rfl⟩
  · rw [hdenotes.isDigit c hc] at hdigit
    cases hdigit
  · rfl

end TraceReport

/-- The message and the stack trace are judged apart. -/
theorem exists_traceReport (expected : RuntimeError) (first : Text) (hlater : later ≠ []) :
    ∃ trace, (runtimeError expected (first :: later)).map Discrepancy.finding =
        messageFindings expected.message first ++ trace ∧
      TraceReport expected.line later trace := by
  obtain ⟨next, others, rfl⟩ := List.exists_cons_of_ne_nil hlater
  have hmessage : (if first = expected.message then []
      else [Discrepancy.otherRuntimeError expected.message first]).map Discrepancy.finding =
      messageFindings expected.message first := by
    unfold messageFindings
    split <;> rfl
  cases hfind : (next :: others).findSome? traceLine? with
  | none =>
      simp only [runtimeError, hfind, List.map_append, hmessage]
      exact ⟨_, rfl, .absent (findSome?_traceLine?_eq_none_iff.1 hfind)⟩
  | some digits =>
      have hfirst := findSome?_traceLine?_eq_some_iff.1 hfind
      simp only [runtimeError, hfind, List.map_append, hmessage]
      split
      · next hvalue => exact ⟨_, rfl, .there hfirst (Numeral.value?_eq_some_iff.1 hvalue)⟩
      · next hvalue =>
          exact ⟨_, rfl, .elsewhere hfirst fun h => hvalue (Numeral.value?_eq_some_iff.2 h)⟩

/-- The check can read the line of a stack trace into a word of 64 bits: if the declared line is
one, that makes no difference to what is found. -/
theorem runtimeError_eq_of_word {expected : RuntimeError} (hline : expected.line < UInt64.size)
    (first : Text) (hlater : later ≠ []) :
    runtimeError expected (first :: later) =
      (if first = expected.message then []
        else [.otherRuntimeError expected.message first]) ++
        match later.findSome? traceLine? with
        | none => [.noTrace later]
        | some digits =>
            if Numeral.word? digits = some (UInt64.ofNat expected.line) then []
            else [.otherLine expected.line digits] := by
  obtain ⟨next, others, rfl⟩ := List.exists_cons_of_ne_nil hlater
  cases hfind : (next :: others).findSome? traceLine? with
  | none => simp only [runtimeError, hfind]
  | some digits => simp only [runtimeError, hfind, Numeral.value?_eq_some_iff_word? hline]

/-- Of a stack trace only the digits of its first entry count. -/
theorem runtimeError_eq_of_firstTrace {later' : List Text} (expected : RuntimeError) (first : Text)
    (h : FirstTrace later digits) (h' : FirstTrace later' digits) :
    runtimeError expected (first :: later) = runtimeError expected (first :: later') := by
  have hne : ∀ {lines}, FirstTrace lines digits → lines ≠ [] := by
    rintro lines hlines rfl
    exact hlines.not_forall_not (by simp)
  obtain ⟨next, others, rfl⟩ := List.exists_cons_of_ne_nil (hne h)
  obtain ⟨next', others', rfl⟩ := List.exists_cons_of_ne_nil (hne h')
  rw [← findSome?_traceLine?_eq_some_iff] at h h'
  simp only [runtimeError, h, h']

/-- The check for a declared runtime error.  Standard error of one piece reports none.  Of more
pieces the first one is compared with the message, and those below it with the line: something is
found if none of them holds a stack trace entry or the first one's digits do not stand for the line.
Digits of ASCII stand for their value, with any number of zeros in front and of any length, and
digits of another script for no line at all. -/
theorem runtimeError_report (expected : RuntimeError) (stderr : Text) :
    ('\n' ∉ stderr → (runtimeError expected (pieces '\n' stderr)).map Discrepancy.finding =
        [⟨"Expected runtime error ".toList ++ Discrepancy.quoted expected.message ++
          " and got none.".toList, []⟩]) ∧
      ∀ first rest later, '\n' ∉ first → stderr = first ++ '\n' :: rest → pieces '\n' rest = later →
        (∃ trace, (runtimeError expected (pieces '\n' stderr)).map Discrepancy.finding =
            messageFindings expected.message first ++ trace ∧
          TraceReport expected.line later trace ∧ trace.length ≤ 1 ∧
          (trace ≠ [] ↔ (∀ line ∈ later, ¬ HoldsEntry line) ∨
            ∃ digits, FirstTrace later digits ∧ ¬ Numeral.Denotes digits expected.line) ∧
          (∀ zeros digits n, FirstTrace later (List.replicate zeros '0' ++ digits) →
            Numeral.Denotes digits n → (trace = [] ↔ n = expected.line)) ∧
          ∀ digits c, FirstTrace later digits → c ∈ digits → c.isDigit = false →
            trace = [otherLineFinding expected.line digits]) ∧
        ∀ rest' digits, FirstTrace later digits → FirstTrace (pieces '\n' rest') digits →
          runtimeError expected (pieces '\n' stderr) =
            runtimeError expected (pieces '\n' (first ++ '\n' :: rest')) := by
  constructor
  · intro hone
    rw [pieces_of_not_mem hone]
    rfl
  · rintro first rest later hfirst rfl rfl
    rw [pieces_append_cons hfirst]
    obtain ⟨trace, hfindings, hreport⟩ :=
      exists_traceReport expected first (pieces_ne_nil '\n' rest)
    refine ⟨⟨trace, hfindings, hreport, hreport.length_le_one, hreport.ne_nil_iff, ?_, ?_⟩, ?_⟩
    · intro zeros digits n htrace hdigits
      exact hreport.eq_nil_iff_of_denotes htrace (hdigits.zeros_append zeros)
    · intro digits c htrace hc hdigit
      exact hreport.eq_of_not_isDigit htrace hc hdigit
    · intro rest' digits htrace htrace'
      rw [pieces_append_cons hfirst]
      exact runtimeError_eq_of_firstTrace expected first htrace htrace'

/-- Two streams whose first stack trace entries below the message have the same digits. -/
theorem runtimeError_report_sameDigits :
    '\n' ∉ "m [line 8]".toList ∧
      FirstTrace (pieces '\n' "[line x] [line 007]".toList) "007".toList ∧
      FirstTrace (pieces '\n' "\n[line 007] [line 8]\n".toList) "007".toList ∧
      runtimeError ⟨['m'], 7⟩ (pieces '\n' "m [line 8]\n[line x] [line 007]".toList) =
        runtimeError ⟨['m'], 7⟩ (pieces '\n' "m [line 8]\n\n[line 007] [line 8]\n".toList) := by
  have hfirst : '\n' ∉ "m [line 8]".toList := by decide +kernel
  have htrace : FirstTrace (pieces '\n' "[line x] [line 007]".toList) "007".toList :=
    findSome?_traceLine?_eq_some_iff.1 (by decide +kernel)
  have htrace' : FirstTrace (pieces '\n' "\n[line 007] [line 8]\n".toList) "007".toList :=
    findSome?_traceLine?_eq_some_iff.1 (by decide +kernel)
  exact ⟨hfirst, htrace, htrace',
    ((runtimeError_report ⟨['m'], 7⟩ _).2 _ _ _ hfirst rfl rfl).2 _ _ htrace htrace'⟩

/-- A number beyond the machine's words is another line and not the line that it would wrap to. -/
example : runtimeError ⟨['m'], 3⟩ [['m'], "[line 18446744073709551619]".toList] =
    [.otherLine 3 "18446744073709551619".toList] := by
  decide +kernel

end Check

end Conformance
