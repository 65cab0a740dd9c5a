import Mathlib.Tactic.ByContra
import Conformance.Expectation

/-!
What a row of declarations comes to.  Printed lines and compile errors are listed in the order of
their declarations, the last runtime error is the one that is kept, and the last error of either
kind decides the exit code.  So the exit code tells which errors are declared exactly as long as
only one kind of them is.
-/

namespace Conformance

/-- The exit code that goes with the declared errors. -/
def errorExit (compileErrors : List Text) (runtimeError : Option RuntimeError) : Int :=
  if compileErrors ≠ [] then compileExit
  else if runtimeError.isSome then runtimeExit
  else cleanExit

theorem filterMap_ne_nil_iff {α β : Type} {entry : α → Option β} {rows : List α} :
    rows.filterMap entry ≠ [] ↔ ∃ row ∈ rows, (entry row).isSome := by
  simp [List.filterMap_eq_nil_iff, Option.isSome_iff_ne_none]

namespace Declaration

def output? : Declaration → Option ExpectedOutput
  | .output line text => some ⟨line, text⟩
  | _ => none

/-- The compile error that is declared, behind the place that it names. -/
def compileError? : Declaration → Option Text
  | .compileError line message => some ('[' :: line ++ ']' :: ' ' :: message)
  | _ => none

def runtimeError? : Declaration → Option RuntimeError
  | .runtimeError line message => some ⟨message, line⟩
  | _ => none

/-- The exit code that a declared error asks for. -/
def exit? : Declaration → Option Int
  | .output _ _ => none
  | .compileError _ _ => some 65
  | .runtimeError _ _ => some 70

theorem compileError?_isSome_iff (d : Declaration) :
    d.compileError?.isSome ↔ ∃ line message, d = .compileError line message := by
  cases d <;> simp [compileError?]

theorem runtimeError?_isSome_iff (d : Declaration) :
    d.runtimeError?.isSome ↔ ∃ line message, d = .runtimeError line message := by
  cases d <;> simp [runtimeError?]

/-- There are entries of one kind exactly if something of that kind is declared. -/
theorem filterMap_ne_nil_iff_exists {α β : Type} {entry : Declaration → Option β}
    {kind : α → Text → Declaration}
    (h : ∀ d, (entry d).isSome ↔ ∃ line message, d = kind line message) {ds : List Declaration} :
    ds.filterMap entry ≠ [] ↔ ∃ line message, kind line message ∈ ds := by
  simp only [filterMap_ne_nil_iff, h]
  constructor
  · rintro ⟨_, hd, line, message, rfl⟩
    exact ⟨line, message, hd⟩
  · rintro ⟨line, message, hd⟩
    exact ⟨_, hd, line, message, rfl⟩

end Declaration

namespace Expectation

variable {e : Expectation} {before ds : List Declaration}

theorem markers_record (e : Expectation) (d : Declaration) :
    (e.record d).2.markers = e.markers + 1 := by
  cases d <;> rfl

theorem output_record (e : Expectation) (d : Declaration) :
    (e.record d).2.output = e.output ++ d.output?.toList := by
  cases d <;> simp [record, addOutput, addCompileError, setRuntimeError, Declaration.output?]

theorem compileErrors_record (e : Expectation) (d : Declaration) :
    (e.record d).2.compileErrors = e.compileErrors ++ d.compileError?.toList := by
  cases d <;> simp [record, addOutput, addCompileError, setRuntimeError, label,
    Declaration.compileError?]

theorem runtimeError_record (e : Expectation) (d : Declaration) :
    (e.record d).2.runtimeError = d.runtimeError?.or e.runtimeError := by
  cases d <;> rfl

theorem exitCode_record (e : Expectation) (d : Declaration) :
    (e.record d).2.exitCode = d.exit?.getD e.exitCode := by
  cases d <;> rfl

/-- The expectation holds what the declarations come to, from the first to the last of them. -/
structure Follows (e : Expectation) (ds : List Declaration) : Prop where
  markers : e.markers = ds.length
  output : e.output = ds.filterMap Declaration.output?
  compileErrors : e.compileErrors = ds.filterMap Declaration.compileError?
  runtimeError : e.runtimeError = (ds.filterMap Declaration.runtimeError?).getLast?
  exitCode : e.exitCode = (ds.filterMap Declaration.exit?).getLast?.getD 0

theorem follows_nil : ({} : Expectation).Follows [] :=
  ⟨rfl, rfl, rfl, rfl, rfl⟩

/-- The lists grow at their end; of what only one is kept, the new one is kept if there is one. -/
theorem Follows.record (h : e.Follows before) (d : Declaration) :
    (e.record d).2.Follows (before ++ [d]) where
  markers := by simp [markers_record, h.markers]
  output := by
    rw [output_record, h.output, List.filterMap_append]
    cases hd : d.output? <;> simp [hd]
  compileErrors := by
    rw [compileErrors_record, h.compileErrors, List.filterMap_append]
    cases hd : d.compileError? <;> simp [hd]
  runtimeError := by
    rw [runtimeError_record, h.runtimeError, List.filterMap_append]
    cases hd : d.runtimeError? <;> simp [hd]
  exitCode := by
    rw [exitCode_record, h.exitCode, List.filterMap_append]
    cases hd : d.exit? <;> simp [hd]

theorem Follows.recordAll (h : e.Follows before) (ds : List Declaration) :
    (e.recordAll ds).2.Follows (before ++ ds) := by
  -- What was declared before grows by each declaration, so the start is left general.
  induction ds generalizing e before with
  | nil => simpa [Expectation.recordAll] using h
  | cons d ds ih =>
      have hrest := ih (h.record d)
      rwa [List.append_assoc, List.singleton_append] at hrest

/-- A runtime error replaces the last one that was declared before it. -/
theorem Follows.getElem?_recordAll (h : e.Follows before) {i line : Nat} {message : Text}
    (hi : ds[i]? = some (.runtimeError line message)) :
    (e.recordAll ds).1[i]? =
      some ((before ++ ds.take i).filterMap Declaration.runtimeError?).getLast? := by
  induction ds generalizing e before i with
  | nil => simp at hi
  | cons d ds ih =>
      cases i with
      | zero =>
          obtain rfl : d = .runtimeError line message := by simpa using hi
          simpa [Expectation.recordAll, Expectation.record] using h.runtimeError
      | succ i =>
          have hrest := ih (h.record d) hi
          rwa [List.append_assoc, List.singleton_append] at hrest

theorem Follows.compileErrors_ne_nil_iff (h : e.Follows ds) :
    e.compileErrors ≠ [] ↔ ∃ line message, .compileError line message ∈ ds := by
  rw [h.compileErrors]
  exact Declaration.filterMap_ne_nil_iff_exists Declaration.compileError?_isSome_iff

theorem Follows.runtimeError_isSome_iff (h : e.Follows ds) :
    e.runtimeError.isSome ↔ ∃ line message, .runtimeError line message ∈ ds := by
  rw [h.runtimeError, List.getLast?_isSome]
  exact Declaration.filterMap_ne_nil_iff_exists Declaration.runtimeError?_isSome_iff

theorem Follows.contradictory_iff (h : e.Follows ds) :
    e.contradictory = true ↔ (∃ line message, .compileError line message ∈ ds) ∧
      ∃ line message, .runtimeError line message ∈ ds := by
  rw [← h.compileErrors_ne_nil_iff, ← h.runtimeError_isSome_iff]
  simp [contradictory]

/-- The exit code is right unless both kinds of error are declared. -/
def Settled (e : Expectation) : Prop :=
  e.contradictory = false → e.exitCode = errorExit e.compileErrors e.runtimeError

theorem settled_empty : ({} : Expectation).Settled := fun _ => rfl

/-- One more declaration leaves the exit code right.  After a contradiction nothing is promised,
and a contradiction is never taken back. -/
theorem Settled.record (h : e.Settled) (d : Declaration) : (e.record d).2.Settled := by
  cases d with
  | output line text => exact h
  | compileError line message =>
      intro _
      simp [Expectation.record, addCompileError, errorExit]
  | runtimeError line message =>
      intro hfree
      have hnone : e.compileErrors = [] := by
        by_contra hne
        simp [contradictory, Expectation.record, setRuntimeError, hne] at hfree
      simp [Expectation.record, setRuntimeError, errorExit, hnone]

theorem Settled.recordAll (h : e.Settled) (ds : List Declaration) :
    (e.recordAll ds).2.Settled := by
  induction ds generalizing e with
  | nil => exact h
  | cons d ds ih => exact ih (h.record d)

/-- The exit code tells which kind of error is declared, unless both kinds are: then there is no
exit code that could. -/
theorem Settled.contradictory_eq_false_iff (h : e.Settled) :
    e.contradictory = false ↔
      (e.exitCode = 65 ↔ e.compileErrors ≠ []) ∧ (e.exitCode = 70 ↔ e.runtimeError.isSome) := by
  -- Only with errors of both kinds would the exit code have to be two numbers at once.
  by_cases hcompile : e.compileErrors = []
  · have hfree : e.contradictory = false := by simp [contradictory, hcompile]
    have hexit := h hfree
    cases hruntime : e.runtimeError <;>
      simp [hfree, hexit, hcompile, hruntime, errorExit, cleanExit, runtimeExit]
  · cases hruntime : e.runtimeError with
    | none =>
        have hfree : e.contradictory = false := by simp [contradictory, hruntime]
        have hexit := h hfree
        simp [hfree, hexit, hcompile, errorExit, compileExit]
    | some expected =>
        have hboth : e.contradictory = true := by simp [contradictory, hcompile, hruntime]
        have hapart : ¬ (e.exitCode = 65 ∧ e.exitCode = 70) := by omega
        simpa [hboth, hcompile] using hapart

/-- Declarations, from none on: all of them count, printed lines and compile errors are kept in
order, each runtime error replaces the one before it, the last error decides the exit code, and the
exit code tells the declared errors apart unless they contradict each other. -/
theorem recordAll_keeps_history (ds : List Declaration) :
    ∃ replaced e, ({} : Expectation).recordAll ds = (replaced, e) ∧
      e.markers = ds.length ∧
      e.output = ds.filterMap Declaration.output? ∧
      e.compileErrors = ds.filterMap Declaration.compileError? ∧
      e.runtimeError = (ds.filterMap Declaration.runtimeError?).getLast? ∧
      (∀ i line message, ds[i]? = some (.runtimeError line message) →
        replaced[i]? = some ((ds.take i).filterMap Declaration.runtimeError?).getLast?) ∧
      e.exitCode = (ds.filterMap Declaration.exit?).getLast?.getD 0 ∧
      (e.contradictory = true ↔ (∃ line message, .compileError line message ∈ ds) ∧
        ∃ line message, .runtimeError line message ∈ ds) ∧
      (e.contradictory = false ↔
        (e.exitCode = 65 ↔ e.compileErrors ≠ []) ∧ (e.exitCode = 70 ↔ e.runtimeError.isSome)) := by
  have hfollows : (({} : Expectation).recordAll ds).2.Follows ds := follows_nil.recordAll ds
  have hsettled : (({} : Expectation).recordAll ds).2.Settled := settled_empty.recordAll ds
  refine ⟨_, _, rfl, hfollows.markers, hfollows.output, hfollows.compileErrors,
    hfollows.runtimeError, fun i line message hi => ?_, hfollows.exitCode,
    hfollows.contradictory_iff, hsettled.contradictory_eq_false_iff⟩
  exact follows_nil.getElem?_recordAll hi

/-- A runtime error that is replaced, with a printed line in between. -/
def overwriting : List Declaration :=
  [.runtimeError 2 "first".toList, .output 3 ['x'], .runtimeError 5 "second".toList]

theorem recordAll_keeps_history_overwriting :
    overwriting[2]? = some (.runtimeError 5 "second".toList) ∧
      ∃ replaced e, ({} : Expectation).recordAll overwriting = (replaced, e) ∧
        e.markers = 3 ∧ e.runtimeError = some ⟨"second".toList, 5⟩ ∧
        replaced[2]? = some (some ⟨"first".toList, 2⟩) ∧ e.exitCode = 70 := by
  have hlast : overwriting[2]? = some (.runtimeError 5 "second".toList) := rfl
  obtain ⟨replaced, e, hall, hmarkers, -, -, hruntime, hreplaced, hexit, -, -⟩ :=
    recordAll_keeps_history overwriting
  exact ⟨hlast, replaced, e, hall, hmarkers, hruntime, hreplaced 2 5 _ hlast, hexit⟩

/-- After a contradiction the exit code is still that of the last error. -/
example :
    (({} : Expectation).recordAll
      [.runtimeError 1 "boom".toList, .compileError ['2'] "错误".toList]).2.exitCode = 65 := by
  decide

end Expectation

end Conformance
