import Conformance.Script
import Conformance.Proofs.Declaration
import Conformance.Proofs.Marker

/-!
What reading a script comes to.  The markers of the lines are declared one after another, so each
field of the expectation is a list of what the lines declare; the exit code is right whenever the
script does not contradict itself, although it can be wrong on the way.
-/

namespace Conformance

namespace Marker

def output? (number : Nat) : Marker → Option ExpectedOutput
  | .output text => some ⟨number, text⟩
  | _ => none

def runtimeError? (number : Nat) : Marker → Option RuntimeError
  | .runtimeError message => some ⟨message, number⟩
  | _ => none

theorem output?_eq_some_iff {number : Nat} {marker : Marker} {o : ExpectedOutput} :
    marker.output? number = some o ↔ ∃ text, marker = .output text ∧ o = ⟨number, text⟩ := by
  cases marker <;> simp [output?, eq_comm]

theorem runtimeError?_eq_some_iff {number : Nat} {marker : Marker} {expected : RuntimeError} :
    marker.runtimeError? number = some expected ↔
      ∃ message, marker = .runtimeError message ∧ expected = ⟨message, number⟩ := by
  cases marker <;> simp [runtimeError?, eq_comm]

/-- What the marker on a line declares. -/
def declaration? (number : Nat) : Marker → Option Declaration
  | .exclusion => none
  | .output text => some (.output number text)
  | .compileError message => some (.compileError (Numeral.ofNat number) message)
  | .compileErrorAt named message => some (.compileError named message)
  | .runtimeError message => some (.runtimeError number message)

theorem bind_output? (number : Nat) (marker : Marker) :
    (marker.declaration? number).bind Declaration.output? = marker.output? number := by
  cases marker <;> rfl

theorem bind_compileError? (number : Nat) (marker : Marker) :
    (marker.declaration? number).bind Declaration.compileError? = marker.label? number := by
  cases marker <;> rfl

theorem bind_runtimeError? (number : Nat) (marker : Marker) :
    (marker.declaration? number).bind Declaration.runtimeError? = marker.runtimeError? number := by
  cases marker <;> rfl

theorem declaration?_isSome_iff {number : Nat} {marker : Marker} :
    (marker.declaration? number).isSome ↔ marker ≠ .exclusion := by
  cases marker <;> simp [declaration?]

theorem declare_eq_elim (e : Expectation) (number : Nat) (marker : Marker) :
    e.declare number marker = (marker.declaration? number).elim e fun d => (e.record d).2 := by
  cases marker <;> rfl

theorem label?_isSome_iff {number : Nat} {marker : Marker} :
    (marker.label? number).isSome ↔
      marker.rule = .compileError ∨ marker.rule = .compileErrorAt := by
  cases marker <;> simp [label?, rule]

theorem runtimeError?_isSome_iff {number : Nat} {marker : Marker} :
    (marker.runtimeError? number).isSome ↔ marker.rule = .runtimeError := by
  cases marker <;> simp [runtimeError?, rule]

end Marker

attribute [ext] Expectation

namespace Expectation

/-- The expectation after a row of markers, each with the number of its line. -/
def declareAll (e : Expectation) (markers : List (Marker × Nat)) : Expectation :=
  markers.foldl (fun e marker => e.declare marker.2 marker.1) e

/-- A row of markers adds what they declare. -/
theorem declareAll_eq_recordAll (e : Expectation) (markers : List (Marker × Nat)) :
    e.declareAll markers =
      (e.recordAll (markers.filterMap fun marker => marker.1.declaration? marker.2)).2 := by
  induction markers generalizing e with
  | nil => rfl
  | cons marker markers ih =>
      have hhead : e.declareAll (marker :: markers) =
          (e.declare marker.2 marker.1).declareAll markers := rfl
      rw [hhead, ih, Marker.declare_eq_elim, List.filterMap_cons]
      cases marker.1.declaration? marker.2 <;> rfl

end Expectation

namespace Script

open Expectation

/-- The markers of numbered lines, each with the number of its line. -/
def marked (lines : List (Text × Nat)) : List (Marker × Nat) :=
  lines.filterMap fun line => (Marker.read? line.1).map fun marker => (marker, line.2)

/-- Some line says that the script is no test. -/
def Excludes (source : Text) : Prop :=
  ∃ line ∈ Text.lines source, Marker.ruleOf? line = some .exclusion

/-- Some line declares a compile error and some line declares a runtime error. -/
def Contradicts (source : Text) : Prop :=
  (∃ line ∈ Text.lines source,
    Marker.ruleOf? line = some .compileError ∨ Marker.ruleOf? line = some .compileErrorAt) ∧
  ∃ line ∈ Text.lines source, Marker.ruleOf? line = some .runtimeError

/-- The compile errors that the lines declare, in the order of the lines. -/
def declaredErrors (source : Text) : List Text :=
  (marked (Text.numberedLines source)).filterMap fun marker => marker.1.label? marker.2

/-- The runtime errors that the lines declare, in the order of the lines. -/
def declaredRuntimeErrors (source : Text) : List RuntimeError :=
  (marked (Text.numberedLines source)).filterMap fun marker => marker.1.runtimeError? marker.2

/-- What all lines of a script declare together; of the runtime errors the last one counts. -/
def declared (source : Text) : Expectation where
  output := (marked (Text.numberedLines source)).filterMap fun marker => marker.1.output? marker.2
  compileErrors := declaredErrors source
  runtimeError := (declaredRuntimeErrors source).getLast?
  exitCode := errorExit (declaredErrors source) (declaredRuntimeErrors source).getLast?
  markers := (Text.lines source).countP fun line => (Marker.ruleOf? line).isSome

theorem declareLines_cons_of_none {e : Expectation} {line : Text} {number : Nat}
    {rest : List (Text × Nat)} (h : Marker.read? line = none) :
    declareLines e ((line, number) :: rest) = declareLines e rest := by
  simp [declareLines, h]

theorem declareLines_cons_of_exclusion {e : Expectation} {line : Text} {number : Nat}
    {rest : List (Text × Nat)} (h : Marker.read? line = some .exclusion) :
    declareLines e ((line, number) :: rest) = none := by
  simp [declareLines, h]

theorem declareLines_cons_of_some {e : Expectation} {line : Text} {number : Nat}
    {rest : List (Text × Nat)} {marker : Marker} (h : Marker.read? line = some marker)
    (hmarker : marker ≠ .exclusion) :
    declareLines e ((line, number) :: rest) = declareLines (e.declare number marker) rest := by
  simp [declareLines, h]

theorem declareLines_eq_none_iff {e : Expectation} {lines : List (Text × Nat)} :
    declareLines e lines = none ↔ ∃ line ∈ lines, Marker.read? line.1 = some .exclusion := by
  induction lines generalizing e with
  | nil => simp [declareLines]
  | cons line lines ih =>
      obtain ⟨text, number⟩ := line
      cases hread : Marker.read? text with
      | none => simp [declareLines_cons_of_none hread, ih, hread]
      | some marker =>
          by_cases hmarker : marker = .exclusion
          · subst hmarker
            simp [declareLines_cons_of_exclusion hread, hread]
          · simp [declareLines_cons_of_some hread hmarker, ih, hread, hmarker]

theorem declareLines_eq_some {e : Expectation} {lines : List (Text × Nat)}
    (h : ∀ line ∈ lines, Marker.read? line.1 ≠ some .exclusion) :
    declareLines e lines = some (e.declareAll (marked lines)) := by
  induction lines generalizing e with
  | nil => rfl
  | cons line lines ih =>
      obtain ⟨text, number⟩ := line
      have hrest := fun other hother => h other (List.mem_cons_of_mem (text, number) hother)
      have hhead : Marker.read? text ≠ some .exclusion := h (text, number) List.mem_cons_self
      cases hread : Marker.read? text with
      | none =>
          rw [declareLines_cons_of_none hread, ih hrest]
          simp [marked, hread]
      | some marker =>
          have hmarker : marker ≠ .exclusion := by
            rintro rfl
            exact hhead hread
          rw [declareLines_cons_of_some hread hmarker, ih hrest]
          simp [marked, hread, declareAll]

theorem map_fst_numberedLines (source : Text) :
    (Text.numberedLines source).map Prod.fst = Text.lines source :=
  List.zipIdx_map_fst 1 (Text.lines source)

theorem exists_numberedLines_iff {source : Text} {P : Text → Prop} :
    (∃ line ∈ Text.numberedLines source, P line.1) ↔ ∃ line ∈ Text.lines source, P line := by
  rw [← map_fst_numberedLines]
  simp

theorem exists_marked_iff {source : Text} {P : Marker.Rule → Prop} :
    (∃ marker ∈ marked (Text.numberedLines source), P marker.1.rule) ↔
      ∃ line ∈ Text.lines source, ∃ rule, Marker.ruleOf? line = some rule ∧ P rule := by
  rw [← exists_numberedLines_iff
    (P := fun line => ∃ rule, Marker.ruleOf? line = some rule ∧ P rule)]
  simp only [marked, List.mem_filterMap, Option.map_eq_some_iff, Marker.ruleOf?_eq]
  constructor
  · rintro ⟨_, ⟨line, hline, marker, hread, rfl⟩, hmarker⟩
    exact ⟨line, hline, marker.rule, ⟨marker, hread, rfl⟩, hmarker⟩
  · rintro ⟨line, hline, _, ⟨marker, hread, rfl⟩, hmarker⟩
    exact ⟨(marker, line.2), ⟨line, hline, marker, hread, rfl⟩, hmarker⟩

theorem rule_eq_exclusion_iff {marker : Marker} :
    marker.rule = .exclusion ↔ marker = .exclusion := by
  cases marker <;> simp [Marker.rule]

theorem excludes_iff {source : Text} :
    Excludes source ↔
      ∃ line ∈ Text.numberedLines source, Marker.read? line.1 = some .exclusion := by
  rw [exists_numberedLines_iff (P := fun line => Marker.read? line = some .exclusion)]
  simp only [Excludes, Marker.ruleOf?_eq, Option.map_eq_some_iff, rule_eq_exclusion_iff,
    exists_eq_right]

theorem declaredErrors_ne_nil_iff {source : Text} :
    declaredErrors source ≠ [] ↔ ∃ line ∈ Text.lines source,
      Marker.ruleOf? line = some .compileError ∨ Marker.ruleOf? line = some .compileErrorAt := by
  rw [declaredErrors, filterMap_ne_nil_iff]
  simp only [Marker.label?_isSome_iff]
  rw [exists_marked_iff (P := fun rule => rule = .compileError ∨ rule = .compileErrorAt)]
  simp only [and_or_left, exists_or, exists_eq_right]

theorem declaredRuntimeErrors_ne_nil_iff {source : Text} :
    declaredRuntimeErrors source ≠ [] ↔
      ∃ line ∈ Text.lines source, Marker.ruleOf? line = some .runtimeError := by
  rw [declaredRuntimeErrors, filterMap_ne_nil_iff]
  simp only [Marker.runtimeError?_isSome_iff]
  rw [exists_marked_iff (P := fun rule => rule = .runtimeError)]
  simp only [exists_eq_right]

theorem contradicts_iff {source : Text} :
    Contradicts source ↔ declaredErrors source ≠ [] ∧ declaredRuntimeErrors source ≠ [] := by
  rw [declaredErrors_ne_nil_iff, declaredRuntimeErrors_ne_nil_iff]
  rfl

/-- The expectation of all lines, whether or not they contradict each other. -/
def expectation (source : Text) : Expectation :=
  ({} : Expectation).declareAll (marked (Text.numberedLines source))

theorem read_eq_excluded {source : Text} (h : Excludes source) : read source = .excluded := by
  rw [read, declareLines_eq_none_iff.2 (excludes_iff.1 h)]

theorem read_eq_ofExpectation {source : Text} (h : ¬ Excludes source) :
    read source = .ofExpectation (expectation source) := by
  rw [excludes_iff] at h
  push Not at h
  rw [read, declareLines_eq_some h]
  rfl

/-- What the lines of a script declare, in the order of the lines. -/
def declarations (source : Text) : List Declaration :=
  (marked (Text.numberedLines source)).filterMap fun marker => marker.1.declaration? marker.2

theorem follows_expectation (source : Text) :
    (expectation source).Follows (declarations source) := by
  rw [expectation, declareAll_eq_recordAll]
  exact follows_nil.recordAll (declarations source)

theorem settled_expectation (source : Text) : (expectation source).Settled := by
  rw [expectation, declareAll_eq_recordAll]
  exact settled_empty.recordAll (declarations source)

theorem filterMap_declarations {β : Type} {entry : Declaration → Option β}
    {markerEntry : Nat → Marker → Option β}
    (h : ∀ number marker, (marker.declaration? number).bind entry = markerEntry number marker)
    (source : Text) :
    (declarations source).filterMap entry =
      (marked (Text.numberedLines source)).filterMap fun marker =>
        markerEntry marker.2 marker.1 := by
  rw [declarations, List.filterMap_filterMap]
  simp only [h]

theorem output_expectation (source : Text) :
    (expectation source).output = (declared source).output := by
  rw [(follows_expectation source).output, filterMap_declarations Marker.bind_output?]
  rfl

theorem compileErrors_expectation (source : Text) :
    (expectation source).compileErrors = declaredErrors source := by
  rw [(follows_expectation source).compileErrors, filterMap_declarations Marker.bind_compileError?]
  rfl

theorem runtimeError_expectation (source : Text) :
    (expectation source).runtimeError = (declaredRuntimeErrors source).getLast? := by
  rw [(follows_expectation source).runtimeError, filterMap_declarations Marker.bind_runtimeError?]
  rfl

theorem markers_expectation {source : Text} (h : ¬ Excludes source) :
    (expectation source).markers = (declared source).markers := by
  have hmarkers : ∀ marker ∈ marked (Text.numberedLines source),
      (marker.1.declaration? marker.2).isSome := by
    intro marker hmarker
    rw [Marker.declaration?_isSome_iff]
    intro hexclusion
    simp only [marked, List.mem_filterMap, Option.map_eq_some_iff] at hmarker
    obtain ⟨line, hline, _, hread, rfl⟩ := hmarker
    exact h (excludes_iff.2 ⟨line, hline, hexclusion ▸ hread⟩)
  have hcount : (declared source).markers = (marked (Text.numberedLines source)).length := by
    rw [marked, List.length_filterMap_eq_countP]
    simp only [declared, Option.isSome_map, Marker.ruleOf?_eq]
    rw [← map_fst_numberedLines, List.countP_map]
    rfl
  rw [(follows_expectation source).markers, declarations, List.length_filterMap_eq_countP,
    List.countP_eq_length.2 hmarkers, hcount]

theorem contradictory_expectation {source : Text} :
    (expectation source).contradictory = true ↔ Contradicts source := by
  rw [contradicts_iff, contradictory, compileErrors_expectation, runtimeError_expectation]
  simp

/-- A script that does not contradict itself declares what its lines declare. -/
theorem expectation_eq_declared {source : Text} (hexcludes : ¬ Excludes source)
    (hcontradicts : ¬ Contradicts source) : expectation source = declared source := by
  have hfree : (expectation source).contradictory = false := by
    rw [← contradictory_expectation] at hcontradicts
    exact Bool.eq_false_iff.2 hcontradicts
  have hexit := settled_expectation source hfree
  rw [compileErrors_expectation, runtimeError_expectation] at hexit
  exact Expectation.ext (output_expectation source) (compileErrors_expectation source)
    (runtimeError_expectation source) hexit (markers_expectation hexcludes)

theorem read_eq_accepted {source : Text} (hexcludes : ¬ Excludes source)
    (hcontradicts : ¬ Contradicts source) : read source = .accepted (declared source) := by
  rw [read_eq_ofExpectation hexcludes, ← expectation_eq_declared hexcludes hcontradicts]
  rw [← contradictory_expectation] at hcontradicts
  unfold Reading.ofExpectation
  split
  · next hcompile hruntime => simp [contradictory, hcompile, hruntime] at hcontradicts
  · rfl

theorem read_eq_contradictory {source : Text} (hexcludes : ¬ Excludes source)
    (hcontradicts : Contradicts source) :
    ∃ runtime, (declaredRuntimeErrors source).getLast? = some runtime ∧
      read source = .contradictory ⟨runtime.line, declaredErrors source⟩ := by
  obtain ⟨hcompile, hruntime⟩ := contradicts_iff.1 hcontradicts
  obtain ⟨label, labels, hlabels⟩ := List.exists_cons_of_ne_nil hcompile
  refine ⟨_, List.getLast?_eq_some_getLast hruntime, ?_⟩
  have hcompile' : (expectation source).compileErrors = label :: labels := by
    rw [compileErrors_expectation, hlabels]
  have hruntime' : (expectation source).runtimeError =
      some ((declaredRuntimeErrors source).getLast hruntime) := by
    rw [runtimeError_expectation, List.getLast?_eq_some_getLast hruntime]
  rw [read_eq_ofExpectation hexcludes, hlabels]
  unfold Reading.ofExpectation
  rw [hcompile', hruntime']

theorem accepted_of_read {source : Text} {e : Expectation} (h : read source = .accepted e) :
    ¬ Contradicts source ∧ e = declared source := by
  have hexcludes : ¬ Excludes source := by
    intro hexcludes
    rw [read_eq_excluded hexcludes] at h
    cases h
  have hcontradicts : ¬ Contradicts source := by
    intro hcontradicts
    obtain ⟨_, _, hread⟩ := read_eq_contradictory hexcludes hcontradicts
    rw [hread] at h
    cases h
  rw [read_eq_accepted hexcludes hcontradicts] at h
  exact ⟨hcontradicts, (Reading.accepted.inj h).symm⟩

theorem wellFormed_of_mem_marked {lines : List (Text × Nat)} {marker : Marker × Nat}
    (h : marker ∈ marked lines) : marker.1.WellFormed := by
  simp only [marked, List.mem_filterMap, Option.map_eq_some_iff] at h
  obtain ⟨_, _, _, hread, rfl⟩ := h
  exact Marker.wellFormed_of_read? hread

/-- No declared text runs over the end of a line. -/
theorem not_mem_output_declared {source : Text} {o : ExpectedOutput}
    (h : o ∈ (declared source).output) : '\n' ∉ o.text := by
  simp only [declared, List.mem_filterMap] at h
  obtain ⟨⟨marker, number⟩, hmarker, houtput⟩ := h
  obtain ⟨text, rfl, rfl⟩ := Marker.output?_eq_some_iff.1 houtput
  exact wellFormed_of_mem_marked hmarker

theorem not_mem_runtimeError_declared {source : Text} {expected : RuntimeError}
    (h : (declared source).runtimeError = some expected) : '\n' ∉ expected.message := by
  have hmem : expected ∈ declaredRuntimeErrors source := List.mem_of_getLast? h
  simp only [declaredRuntimeErrors, List.mem_filterMap] at hmem
  obtain ⟨⟨marker, number⟩, hmarker, hruntime⟩ := hmem
  obtain ⟨message, rfl, rfl⟩ := Marker.runtimeError?_eq_some_iff.1 hruntime
  exact (wellFormed_of_mem_marked hmarker).2

/-- A script is no test if a line says so, a contradiction if it declares both kinds of error, and
otherwise a test that expects what its lines declare. -/
theorem read_classifies (source : Text) :
    (read source = .excluded ↔ Excludes source) ∧
    (∀ c, read source = .contradictory c ↔ ¬ Excludes source ∧ Contradicts source ∧
      (declaredRuntimeErrors source).getLast?.map RuntimeError.line = some c.runtimeErrorLine ∧
      c.compileErrors = declaredErrors source) ∧
    (∀ e, read source = .accepted e ↔
      ¬ Excludes source ∧ ¬ Contradicts source ∧ e = declared source) := by
  by_cases hexcludes : Excludes source
  · simp [read_eq_excluded hexcludes, hexcludes]
  · by_cases hcontradicts : Contradicts source
    · obtain ⟨runtime, hlast, hread⟩ := read_eq_contradictory hexcludes hcontradicts
      refine ⟨by simp [hread, hexcludes], fun c => ?_, by simp [hread, hcontradicts]⟩
      simp only [hread, hexcludes, hcontradicts, hlast, Option.map_some, Option.some.injEq,
        Reading.contradictory.injEq, not_false_eq_true, true_and]
      constructor
      · rintro rfl
        exact ⟨rfl, rfl⟩
      · rintro ⟨hline, herrors⟩
        cases c
        simp_all
    · simp [read_eq_accepted hexcludes hcontradicts, hexcludes, hcontradicts, eq_comm]

end Script

end Conformance
