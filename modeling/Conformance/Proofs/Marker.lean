import Conformance.Expectation
import Conformance.Proofs.Diagnostic

/-!
What the marker of a line holds.  The rule that reads a line is the first row of the table that
accepts it, no text of a marker runs over the end of a line, and a declared compile error can be
met exactly when its message goes beyond the error word and names no further place.
-/

namespace Conformance.Marker

/-- The first row of the table of rules that accepts the line. -/
def ruleOf? (line : Text) : Option Rule :=
  Rule.all.find? fun rule => (rule.read line).isSome

/-- A marker holds no line feed, a compile error starts with the error word and names a place by
digits, and the message of a runtime error is not empty. -/
def WellFormed : Marker → Prop
  | .exclusion => True
  | .output text => '\n' ∉ text
  | .compileError message => ∃ rest, '\n' ∉ rest ∧ message = errorWord ++ rest
  | .compileErrorAt named message =>
      Text.IsDigits named ∧ ∃ rest, '\n' ∉ rest ∧ message = errorWord ++ rest
  | .runtimeError message => message ≠ [] ∧ '\n' ∉ message

theorem exists_of_firstAt {read : Text → Option Marker} {line : Text} {marker : Marker}
    (h : Text.firstAt read line = some marker) : ∃ ending, read ending = some marker := by
  obtain ⟨-, ending, -, hread, -⟩ := Text.firstAt_eq_some_iff.1 h
  exact ⟨ending, hread⟩

theorem rule_and_wellFormed_of_read {rule : Rule} {line : Text} {marker : Marker}
    (h : rule.read line = some marker) : marker.rule = rule ∧ marker.WellFormed := by
  cases rule with
  | exclusion =>
      simp only [Rule.read, Option.bind_eq_bind, Option.bind_eq_some_iff, Option.pure_def] at h
      obtain ⟨_, -, ⟨⟩⟩ := h
      exact ⟨rfl, trivial⟩
  | output =>
      simp only [Rule.read, Option.bind_eq_bind, Option.bind_eq_some_iff, Option.pure_def] at h
      obtain ⟨t, -, ⟨⟩⟩ := h
      exact ⟨rfl, Text.not_mem_restOfLine _⟩
  | compileError =>
      simp only [Rule.read, Option.bind_eq_bind, Option.bind_eq_some_iff, Option.pure_def] at h
      obtain ⟨t, -, ⟨⟩⟩ := h
      exact ⟨rfl, _, Text.not_mem_restOfLine t, rfl⟩
  | compileErrorAt =>
      obtain ⟨ending, hread⟩ := exists_of_firstAt h
      simp only [compileErrorHere?, Option.bind_eq_bind, Option.bind_eq_some_iff, Option.pure_def,
        Prod.exists] at hread
      obtain ⟨t, -, named, message, hplace, ⟨⟩⟩ := hread
      exact ⟨rfl, (place?_eq_some_iff.1 hplace).1, _, Text.not_mem_restOfLine message, rfl⟩
  | runtimeError =>
      obtain ⟨ending, hread⟩ := exists_of_firstAt h
      simp only [runtimeErrorHere?, Option.bind_eq_bind, Option.bind_eq_some_iff] at hread
      obtain ⟨t, -, hmessage⟩ := hread
      split at hmessage
      · cases hmessage
      · next hne =>
          cases hmessage
          exact ⟨rfl, hne, Text.not_mem_restOfLine t⟩

theorem wellFormed_of_read? {line : Text} {marker : Marker} (h : read? line = some marker) :
    marker.WellFormed := by
  obtain ⟨rule, -, hread⟩ := List.exists_of_findSome?_eq_some h
  exact (rule_and_wellFormed_of_read hread).2

/-- The marker of a line is read by the first row that accepts the line. -/
theorem ruleOf?_eq (line : Text) : ruleOf? line = (read? line).map rule := by
  have hrows : ∀ rules : List Rule,
      rules.find? (fun rule => (rule.read line).isSome) =
        (rules.findSome? fun rule => rule.read line).map rule := by
    intro rules
    induction rules with
    | nil => rfl
    | cons row rules ih =>
        cases hread : row.read line with
        | none => simpa [List.find?_cons, List.findSome?_cons, hread] using ih
        | some marker =>
            simp [hread, (rule_and_wellFormed_of_read hread).1]
  exact hrows Rule.all

example : ruleOf? "print 1; // expect: // 错误x".toList = some .output := by decide

/-- The label of the compile error that the marker on a line declares. -/
def label? (number : Nat) : Marker → Option Text
  | .compileError message => some (label (Numeral.ofNat number) message)
  | .compileErrorAt named message => some (label named message)
  | _ => none

theorem compileErrors_declare (e : Expectation) (number : Nat) (marker : Marker) :
    (e.declare number marker).compileErrors = e.compileErrors ++ (marker.label? number).toList := by
  cases marker <;> simp [Expectation.declare, Expectation.addOutput, Expectation.addCompileError,
    Expectation.setRuntimeError, label?]

/-- The label that a marker declares, taken apart. -/
theorem exists_eq_label {marker : Marker} (hmarker : marker.WellFormed) {number : Nat}
    {pushed : Text} (h : marker.label? number = some pushed) :
    ∃ named rest, Text.IsDigits named ∧ '\n' ∉ rest ∧ pushed = label named (errorWord ++ rest) := by
  cases marker with
  | compileError message =>
      obtain ⟨rest, hrest, rfl⟩ := hmarker
      exact ⟨_, rest, Numeral.isDigits_ofNat number, hrest, (Option.some.inj h).symm⟩
  | compileErrorAt named message =>
      obtain ⟨hnamed, rest, hrest, rfl⟩ := hmarker
      exact ⟨named, rest, hnamed, hrest, (Option.some.inj h).symm⟩
  | exclusion => cases h
  | output text => cases h
  | runtimeError message => cases h

/-- A declared compile error can be met exactly when its message goes beyond the error word and
names no further place. -/
theorem answerable_declared_iff {line : Text} {marker : Marker} (hread : read? line = some marker)
    {e : Expectation} {number : Nat} {pushed : Text}
    (hpushed : (e.declare number marker).compileErrors = e.compileErrors ++ [pushed]) :
    ∃ named rest, Text.IsDigits named ∧ pushed = label named (errorWord ++ rest) ∧
      (Answerable pushed ↔ rest ≠ [] ∧ ¬ NamesPlace rest) := by
  have hlabel : marker.label? number = some pushed := by
    rw [compileErrors_declare, List.append_cancel_left_eq] at hpushed
    exact Option.toList_eq_singleton_iff.1 hpushed
  obtain ⟨named, rest, hnamed, hrest, rfl⟩ :=
    exists_eq_label (wellFormed_of_read? hread) hlabel
  exact ⟨named, rest, hnamed, rfl, answerable_label_iff hnamed hrest⟩

theorem answerable_declared_iff_nine :
    read? "//【行 9】错误b".toList = some (.compileErrorAt ['9'] "错误b".toList) ∧
      (({} : Expectation).declare 4 (.compileErrorAt ['9'] "错误b".toList)).compileErrors =
        ({} : Expectation).compileErrors ++ ["[9] 错误b".toList] ∧
      ∃ named rest, Text.IsDigits named ∧ "[9] 错误b".toList = label named (errorWord ++ rest) ∧
        (Answerable "[9] 错误b".toList ↔ rest ≠ [] ∧ ¬ NamesPlace rest) := by
  have hread : read? "//【行 9】错误b".toList = some (.compileErrorAt ['9'] "错误b".toList) := by
    decide +kernel
  have hpushed :
      (({} : Expectation).declare 4 (.compileErrorAt ['9'] "错误b".toList)).compileErrors =
        ({} : Expectation).compileErrors ++ ["[9] 错误b".toList] := by
    decide +kernel
  exact ⟨hread, hpushed, answerable_declared_iff hread hpushed⟩

/-- Two compile errors that can be declared and never be met: one without a message, and one whose
message names a further place. -/
theorem not_answerable_declared :
    read? "// 错误".toList = some (.compileError "错误".toList) ∧
      label? 1 (.compileError "错误".toList) = some "[1] 错误".toList ∧
      ¬ Answerable "[1] 错误".toList ∧
      read? "// 错误a行 2】错误b".toList = some (.compileError "错误a行 2】错误b".toList) ∧
      label? 1 (.compileError "错误a行 2】错误b".toList) = some "[1] 错误a行 2】错误b".toList ∧
      ¬ Answerable "[1] 错误a行 2】错误b".toList := by
  have hone : Text.IsDigits ['1'] := ⟨by simp, List.forall_mem_singleton.2 (by decide)⟩
  have htwo : Text.IsDigits ['2'] := ⟨by simp, List.forall_mem_singleton.2 (by decide)⟩
  refine ⟨by decide +kernel, by decide +kernel, fun h => ?_, by decide +kernel,
    by decide +kernel, fun h => ?_⟩
  · have hbare : Answerable (label ['1'] (errorWord ++ [])) := h
    exact ((answerable_label_iff hone List.not_mem_nil).1 hbare).1 rfl
  · have hnested : Answerable (label ['1'] (errorWord ++ "a行 2】错误b".toList)) := h
    have hplace : NamesPlace "a行 2】错误b".toList := ⟨['a'], ['2'], 'b', [], htwo, rfl⟩
    exact ((answerable_label_iff hone (by decide)).1 hnested).2 hplace

end Conformance.Marker
