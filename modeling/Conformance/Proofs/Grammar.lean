import Conformance.Proofs.Occurrence
import Conformance.Proofs.Script

/-!
The grammar of markers.  Each rule reads a comment of its own form at the leftmost place where it
stands, and of several rules the first one in the table decides; the expectation then grows by what
that comment says and by nothing else.
-/

namespace Conformance

/-- The expectation after one more line. -/
def Expectation.afterLine (e : Expectation) (number : Nat) (line : Text) : Expectation :=
  match Marker.read? line with
  | none => e
  | some marker => e.declare number marker

namespace Marker

open Text (Leftmost StartsWith restOfLine)

/-- The text starts with a comment of the form that the rule reads. -/
def Rule.Opens : Rule → Text → Prop
  | .exclusion, t => StartsWith "// nontest".toList t
  | .output, t => StartsWith "// expect:".toList t
  | .compileError, t => StartsWith "// 错误".toList t
  | .compileErrorAt, t =>
      ∃ named, Text.IsDigits named ∧ StartsWith ("//【行 ".toList ++ named ++ "】错误".toList) t
  | .runtimeError, t =>
      ∃ c, c ≠ '\n' ∧ StartsWith ("// expect runtime error: ".toList ++ [c]) t

/-- A comment of the form that the rule reads stands somewhere in the line. -/
def Rule.Occurs (rule : Rule) (line : Text) : Prop :=
  ∃ before ending, line = before ++ ending ∧ rule.Opens ending

/-- What a line does to an expectation: the rule that decides, and the expectation afterwards. -/
inductive Takes (e : Expectation) (number : Nat) (line : Text) : Option Rule → Expectation → Prop
  | exclusion : Rule.exclusion.Occurs line → Takes e number line (some .exclusion) e
  | output {before t : Text} :
      (∀ rule ∈ [Rule.exclusion], ¬ rule.Occurs line) →
      Leftmost Rule.output.Opens line before ("// expect:".toList ++ t) →
      Takes e number line (some .output)
        { e with
          output := e.output ++ [⟨number, dropSpace (restOfLine t)⟩]
          markers := e.markers + 1 }
  | compileError {before t : Text} :
      (∀ rule ∈ [Rule.exclusion, .output], ¬ rule.Occurs line) →
      Leftmost Rule.compileError.Opens line before ("// 错误".toList ++ t) →
      Takes e number line (some .compileError)
        { e with
          compileErrors := e.compileErrors ++
            ["[".toList ++ Numeral.ofNat number ++ "] 错误".toList ++ restOfLine t]
          exitCode := 65
          markers := e.markers + 1 }
  | compileErrorAt {before named t : Text} :
      (∀ rule ∈ [Rule.exclusion, .output, .compileError], ¬ rule.Occurs line) →
      Text.IsDigits named →
      Leftmost Rule.compileErrorAt.Opens line before
        ("//【行 ".toList ++ named ++ "】错误".toList ++ t) →
      Takes e number line (some .compileErrorAt)
        { e with
          compileErrors := e.compileErrors ++
            ["[".toList ++ named ++ "] 错误".toList ++ restOfLine t]
          exitCode := 65
          markers := e.markers + 1 }
  | runtimeError {before t : Text} :
      (∀ rule ∈ [Rule.exclusion, .output, .compileError, .compileErrorAt], ¬ rule.Occurs line) →
      Leftmost Rule.runtimeError.Opens line before ("// expect runtime error: ".toList ++ t) →
      Takes e number line (some .runtimeError)
        { e with
          runtimeError := some ⟨restOfLine t, number⟩
          exitCode := 70
          markers := e.markers + 1 }
  | unmarked : (∀ rule : Rule, ¬ rule.Occurs line) → Takes e number line none e

variable {line : Text} {marker : Marker}

/-! ### What each rule reads -/

theorem restOfLine_dropSpace (t : Text) :
    restOfLine (dropSpace t) = dropSpace (restOfLine t) := by
  cases t with
  | nil => rfl
  | cons c t =>
      by_cases hspace : c = ' '
      · subst hspace
        rfl
      · by_cases hline : c = '\n'
        · subst hline
          rfl
        · simp [dropSpace, restOfLine, hspace, hline]

theorem compileErrorHere?_eq_some_iff {t : Text} :
    compileErrorHere? t = some marker ↔ ∃ named rest, Text.IsDigits named ∧
      t = "//【行 ".toList ++ named ++ "】错误".toList ++ rest ∧
      marker = .compileErrorAt named (errorWord ++ restOfLine rest) := by
  simp only [compileErrorHere?, Option.bind_eq_bind, Option.bind_eq_some_iff, Option.pure_def,
    Option.some.injEq, Prod.exists, Text.after?_eq_some_iff, place?_eq_some_iff]
  constructor
  · rintro ⟨_, rfl, named, rest, ⟨hnamed, rfl⟩, rfl⟩
    exact ⟨named, rest, hnamed, rfl, rfl⟩
  · rintro ⟨named, rest, hnamed, rfl, rfl⟩
    exact ⟨place named ++ rest, rfl, named, rest, ⟨hnamed, rfl⟩, rfl⟩

theorem runtimeErrorHere?_eq_some_iff {t : Text} :
    runtimeErrorHere? t = some marker ↔ ∃ c rest, c ≠ '\n' ∧
      t = "// expect runtime error: ".toList ++ c :: rest ∧
      marker = .runtimeError (restOfLine (c :: rest)) := by
  simp only [runtimeErrorHere?, Option.bind_eq_bind, Option.bind_eq_some_iff, Option.pure_def,
    Text.after?_eq_some_iff]
  constructor
  · rintro ⟨message, rfl, hmessage⟩
    cases message with
    | nil => cases hmessage
    | cons c rest =>
        by_cases hline : c = '\n'
        · subst hline
          cases hmessage
        · have hne : restOfLine (c :: rest) ≠ [] := by simp [restOfLine, hline]
          rw [if_neg hne] at hmessage
          exact ⟨c, rest, hline, rfl, (Option.some.inj hmessage).symm⟩
  · rintro ⟨c, rest, hline, rfl, rfl⟩
    have hne : restOfLine (c :: rest) ≠ [] := by simp [restOfLine, hline]
    exact ⟨c :: rest, rfl, if_neg hne⟩

/-- A rule that looks for a word reads what follows its first occurrence. -/
theorem bind_afterFirst?_eq_some_iff {word : Text} {content : Text → Marker} :
    ((Text.afterFirst? word line).bind fun t => some (content t)) = some marker ↔
      ∃ before t, Leftmost (StartsWith word) line before (word ++ t) ∧ marker = content t := by
  simp only [Option.bind_eq_some_iff, Option.some.injEq, Text.afterFirst?_eq_some_iff]
  constructor
  · rintro ⟨t, ⟨before, h⟩, rfl⟩
    exact ⟨before, t, h, rfl⟩
  · rintro ⟨before, t, h, rfl⟩
    exact ⟨t, ⟨before, h⟩, rfl⟩

theorem bind_afterFirst?_eq_none_iff {word : Text} {content : Text → Marker} :
    ((Text.afterFirst? word line).bind fun t => some (content t)) = none ↔
      ∀ before ending, line = before ++ ending → ¬ StartsWith word ending := by
  rw [← Text.afterFirst?_eq_none_iff]
  cases Text.afterFirst? word line <;> simp

theorem opens_compileErrorAt_iff {t : Text} :
    Rule.compileErrorAt.Opens t ↔ ∃ marker, compileErrorHere? t = some marker := by
  simp only [compileErrorHere?_eq_some_iff]
  constructor
  · rintro ⟨named, hnamed, rest, rfl⟩
    exact ⟨_, named, rest, hnamed, rfl, rfl⟩
  · rintro ⟨_, named, rest, hnamed, rfl, -⟩
    exact ⟨named, hnamed, rest, rfl⟩

theorem opens_runtimeError_iff {t : Text} :
    Rule.runtimeError.Opens t ↔ ∃ marker, runtimeErrorHere? t = some marker := by
  simp only [runtimeErrorHere?_eq_some_iff]
  constructor
  · rintro ⟨c, hc, rest, rfl⟩
    exact ⟨_, c, rest, hc, List.append_assoc .., rfl⟩
  · rintro ⟨_, c, rest, hc, rfl, -⟩
    exact ⟨c, hc, rest, by rw [List.append_assoc]; rfl⟩

/-- A rule finds nothing exactly when no comment of its form stands in the line. -/
theorem read_eq_none_iff {rule : Rule} : rule.read line = none ↔ ¬ rule.Occurs line := by
  simp only [Rule.Occurs, not_exists, not_and]
  cases rule with
  | exclusion => exact bind_afterFirst?_eq_none_iff
  | output => exact bind_afterFirst?_eq_none_iff
  | compileError => exact bind_afterFirst?_eq_none_iff
  | compileErrorAt => exact Text.firstAt_eq_none_iff_forall_not fun _ => opens_compileErrorAt_iff
  | runtimeError => exact Text.firstAt_eq_none_iff_forall_not fun _ => opens_runtimeError_iff

theorem read_output_eq_some_iff :
    Rule.output.read line = some marker ↔ ∃ before t,
      Leftmost Rule.output.Opens line before ("// expect:".toList ++ t) ∧
      marker = .output (dropSpace (restOfLine t)) := by
  simp only [← restOfLine_dropSpace]
  exact bind_afterFirst?_eq_some_iff

theorem read_compileError_eq_some_iff :
    Rule.compileError.read line = some marker ↔ ∃ before t,
      Leftmost Rule.compileError.Opens line before ("// 错误".toList ++ t) ∧
      marker = .compileError (errorWord ++ restOfLine t) :=
  bind_afterFirst?_eq_some_iff

theorem read_compileErrorAt_eq_some_iff :
    Rule.compileErrorAt.read line = some marker ↔ ∃ before named t, Text.IsDigits named ∧
      Leftmost Rule.compileErrorAt.Opens line before
        ("//【行 ".toList ++ named ++ "】错误".toList ++ t) ∧
      marker = .compileErrorAt named (errorWord ++ restOfLine t) := by
  rw [Rule.read, Text.firstAt_eq_some_iff_leftmost fun _ => opens_compileErrorAt_iff]
  simp only [compileErrorHere?_eq_some_iff]
  constructor
  · rintro ⟨before, _, h, named, t, hnamed, rfl, rfl⟩
    exact ⟨before, named, t, hnamed, h, rfl⟩
  · rintro ⟨before, named, t, hnamed, h, rfl⟩
    exact ⟨before, _, h, named, t, hnamed, rfl, rfl⟩

theorem read_runtimeError_eq_some_iff :
    Rule.runtimeError.read line = some marker ↔ ∃ before t,
      Leftmost Rule.runtimeError.Opens line before ("// expect runtime error: ".toList ++ t) ∧
      marker = .runtimeError (restOfLine t) := by
  rw [Rule.read, Text.firstAt_eq_some_iff_leftmost fun _ => opens_runtimeError_iff]
  simp only [runtimeErrorHere?_eq_some_iff]
  constructor
  · rintro ⟨before, _, h, c, t, -, rfl, rfl⟩
    exact ⟨before, c :: t, h, rfl⟩
  · rintro ⟨before, t, h, rfl⟩
    obtain ⟨c, hc, rest, ht⟩ := h.holds
    rw [List.append_assoc] at ht
    obtain rfl := List.append_cancel_left ht
    exact ⟨before, _, h, c, rest, hc, rfl, rfl⟩

/-! ### What a line does -/

theorem label_errorWord (named rest : Text) :
    label named (errorWord ++ rest) = "[".toList ++ named ++ "] 错误".toList ++ rest := by
  simp only [label, List.append_assoc]
  rfl

/-- The first rule that accepts a line decides what the line does. -/
theorem ruleOf?_and_afterLine_of_read {front back : List Rule} {rule : Rule}
    (hread : rule.read line = some marker) (hall : Rule.all = front ++ rule :: back)
    (hfront : ∀ earlier ∈ front, ¬ earlier.Occurs line) (e : Expectation) (number : Nat) :
    ruleOf? line = some rule ∧ e.afterLine number line = e.declare number marker := by
  have hmarker : read? line = some marker :=
    List.findSome?_eq_some_iff.2
      ⟨front, rule, back, hall, hread, fun earlier h => read_eq_none_iff.2 (hfront earlier h)⟩
  rw [ruleOf?_eq, Expectation.afterLine, hmarker]
  exact ⟨congrArg some (rule_and_wellFormed_of_read hread).1, rfl⟩

theorem exists_read_of_occurs {rule : Rule} (h : rule.Occurs line) :
    ∃ marker, rule.read line = some marker :=
  Option.ne_none_iff_exists'.1 fun hnone => read_eq_none_iff.1 hnone h

theorem Takes.ruleOf?_and_afterLine {e e' : Expectation} {number : Nat} {rule : Option Rule}
    (h : Takes e number line rule e') :
    ruleOf? line = rule ∧ e.afterLine number line = e' := by
  cases h with
  | exclusion hoccurs =>
      obtain ⟨marker, hread⟩ := exists_read_of_occurs hoccurs
      obtain rfl := Script.rule_eq_exclusion_iff.1 (rule_and_wellFormed_of_read hread).1
      exact ruleOf?_and_afterLine_of_read hread rfl (List.forall_mem_nil _) e number
  | output hearlier h =>
      have hread := read_output_eq_some_iff.2 ⟨_, _, h, rfl⟩
      exact ruleOf?_and_afterLine_of_read hread rfl hearlier e number
  | compileError hearlier h =>
      have hread := read_compileError_eq_some_iff.2 ⟨_, _, h, rfl⟩
      rw [← label_errorWord]
      exact ruleOf?_and_afterLine_of_read hread rfl hearlier e number
  | compileErrorAt hearlier hnamed h =>
      have hread := read_compileErrorAt_eq_some_iff.2 ⟨_, _, _, hnamed, h, rfl⟩
      rw [← label_errorWord]
      exact ruleOf?_and_afterLine_of_read hread rfl hearlier e number
  | runtimeError hearlier h =>
      have hread := read_runtimeError_eq_some_iff.2 ⟨_, _, h, rfl⟩
      exact ruleOf?_and_afterLine_of_read hread rfl hearlier e number
  | unmarked hnone =>
      have hread : read? line = none :=
        List.findSome?_eq_none_iff.2 fun rule _ => read_eq_none_iff.2 (hnone rule)
      rw [ruleOf?_eq, Expectation.afterLine, hread]
      exact ⟨rfl, rfl⟩

/-- Every line does something: the rules are gone through in their order. -/
theorem exists_takes (e : Expectation) (number : Nat) (line : Text) :
    ∃ rule e', Takes e number line rule e' := by
  by_cases hexclusion : Rule.exclusion.Occurs line
  · exact ⟨_, _, .exclusion hexclusion⟩
  by_cases houtput : Rule.output.Occurs line
  · obtain ⟨_, hread⟩ := exists_read_of_occurs houtput
    obtain ⟨_, _, h, -⟩ := read_output_eq_some_iff.1 hread
    exact ⟨_, _, .output (by simp [hexclusion]) h⟩
  by_cases hhere : Rule.compileError.Occurs line
  · obtain ⟨_, hread⟩ := exists_read_of_occurs hhere
    obtain ⟨_, _, h, -⟩ := read_compileError_eq_some_iff.1 hread
    exact ⟨_, _, .compileError (by simp [hexclusion, houtput]) h⟩
  by_cases hnamed : Rule.compileErrorAt.Occurs line
  · obtain ⟨_, hread⟩ := exists_read_of_occurs hnamed
    obtain ⟨_, _, _, hdigits, h, -⟩ := read_compileErrorAt_eq_some_iff.1 hread
    exact ⟨_, _, .compileErrorAt (by simp [hexclusion, houtput, hhere]) hdigits h⟩
  by_cases hruntime : Rule.runtimeError.Occurs line
  · obtain ⟨_, hread⟩ := exists_read_of_occurs hruntime
    obtain ⟨_, _, h, -⟩ := read_runtimeError_eq_some_iff.1 hread
    exact ⟨_, _, .runtimeError (by simp [hexclusion, houtput, hhere, hnamed]) h⟩
  · refine ⟨_, _, .unmarked fun rule => ?_⟩
    cases rule with
    | exclusion => exact hexclusion
    | output => exact houtput
    | compileError => exact hhere
    | compileErrorAt => exact hnamed
    | runtimeError => exact hruntime

/-- A line takes an expectation exactly where the first form of comment that stands in it says, and
reading goes on from there unless the line says that the script is no test. -/
theorem afterLine_takes (e : Expectation) (number : Nat) (line : Text) :
    (∀ rule e', Takes e number line rule e' ↔
        ruleOf? line = rule ∧ e.afterLine number line = e') ∧
      ∀ rest, Script.declareLines e ((line, number) :: rest) =
        if ruleOf? line = some .exclusion then none
        else Script.declareLines (e.afterLine number line) rest := by
  constructor
  · intro rule e'
    constructor
    · exact Takes.ruleOf?_and_afterLine
    · rintro ⟨rfl, rfl⟩
      obtain ⟨rule, e', h⟩ := exists_takes e number line
      obtain ⟨rfl, rfl⟩ := h.ruleOf?_and_afterLine
      exact h
  · intro rest
    rw [ruleOf?_eq, Expectation.afterLine]
    cases hread : read? line with
    | none => simp [Script.declareLines_cons_of_none hread]
    | some marker =>
        by_cases hmarker : marker = .exclusion
        · subst hmarker
          simp [Script.declareLines_cons_of_exclusion hread, rule]
        · simp [Script.declareLines_cons_of_some hread hmarker, Script.rule_eq_exclusion_iff,
            hmarker]

end Marker

end Conformance
