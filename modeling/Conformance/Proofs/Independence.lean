import Mathlib.Algebra.BigOperators.Group.List.Basic
import Conformance.Program
import Conformance.Proofs.Report

/-!
Scripts do not interfere with each other.  If every script has fixed bytes and the interpreter
always answers it in the same way, then its outcome depends on the script alone, the totals depend
on which scripts there are and not on their order, and scripts that are no tests decide nothing.
-/

namespace Conformance.Suite

/-- What stands in each script, and what the interpreter leaves behind on it. -/
structure Behaviour where
  bytes : Path → List UInt8
  result : Path → Run

namespace Behaviour

variable (b : Behaviour)

def visit (script : Path) : Visit :=
  match Script.ofBytes (b.bytes script) with
  | .excluded => .excluded script
  | .contradictory c => .contradictory script c
  | .accepted e => .tested script e (b.result script)

def outcome (o : CheckOptions) (script : Path) : Outcome :=
  match Script.ofBytes (b.bytes script) with
  | .excluded => .skipped
  | .contradictory c => .invalid c
  | .accepted e => .ofDiscrepancies (check o e (b.result script))

def IsTest (script : Path) : Prop :=
  ∃ e, Script.ofBytes (b.bytes script) = .accepted e

/-- Nothing is found on the script if it is a test. -/
def Holds (o : CheckOptions) (script : Path) : Prop :=
  ∀ e, Script.ofBytes (b.bytes script) = .accepted e → check o e (b.result script) = []

@[simp] theorem script_visit (script : Path) : (b.visit script).script = script := by
  unfold visit
  cases Script.ofBytes (b.bytes script) <;> rfl

theorem outcome_visit (o : CheckOptions) (script : Path) :
    (b.visit script).outcome o = b.outcome o script := by
  unfold visit outcome
  cases Script.ofBytes (b.bytes script) with
  | excluded => rfl
  | contradictory c => rfl
  | accepted e => exact Visit.outcome_tested ..

end Behaviour

variable {σ ω : Type} {settings : Settings} {world : World ω} {reached : ω → Prop} {start : ω}
  {scripts scripts' : List Path} {b : Behaviour}

/-- The scripts are found, and in every state that the run can reach they have these bytes and the
interpreter starts on each test with this result. -/
structure Steady (settings : Settings) (world : World ω) (reached : ω → Prop) (start : ω)
    (scripts : List Path) (b : Behaviour) : Prop where
  found : world.scripts start settings.root = .ok scripts
  begins : reached start
  reads : ∀ w, reached w → ∀ script ∈ scripts, world.read w script = .ok (b.bytes script)
  runs : ∀ w, reached w → ∀ script ∈ scripts, b.IsTest script →
    ∃ after, world.run ⟨settings.interpreter, script⟩ w = .ok (b.result script) after ∧
      reached after

/-- In every state that the run can reach, a script is met in the same way. -/
theorem Steady.visited (h : Steady settings world reached start scripts b) {w : ω} (hw : reached w)
    {script : Path} (hscript : script ∈ scripts) :
    ∃ after, Visited world settings.interpreter w (b.visit script) after ∧ reached after := by
  have hread := h.reads w hw script hscript
  unfold Behaviour.visit
  cases hreading : Script.ofBytes (b.bytes script) with
  | excluded => exact ⟨w, .excluded hread hreading, hw⟩
  | contradictory c => exact ⟨w, .contradictory hread hreading, hw⟩
  | accepted e =>
      obtain ⟨after, hrun, hafter⟩ := h.runs w hw script hscript ⟨e, hreading⟩
      exact ⟨after, .tested hread hreading hrun, hafter⟩

theorem Steady.along (h : Steady settings world reached start scripts b) {w : ω} (hw : reached w)
    {part : List Path} (hpart : part ⊆ scripts) :
    ∃ after, Along (Visited world settings.interpreter) w (part.map b.visit) after := by
  induction part generalizing w with
  | nil => exact ⟨w, .nil⟩
  | cons script rest ih =>
      rw [List.cons_subset] at hpart
      obtain ⟨next, hvisited, hnext⟩ := h.visited hw hpart.1
      obtain ⟨after, hrest⟩ := ih hnext hpart.2
      exact ⟨after, .cons hvisited hrest⟩

def Behaviour.totals (b : Behaviour) (o : CheckOptions) (scripts : List Path) : Tally :=
  Suite.totals o (scripts.map b.visit)

/-- A run over steady scripts gives totals, and each script has the outcome that it has by
itself. -/
theorem Steady.exists_run (h : Steady settings world reached start scripts b)
    {reporter : Reporter σ} {state : σ} (hwilling : Willing reporter state) (elapsed : Duration) :
    ∃ s, run settings world reporter state start elapsed = .ok (b.totals settings.check scripts) s ∧
      s.outcomes = scripts.map fun script => (script, b.outcome settings.check script) := by
  obtain ⟨after, hvisited⟩ := h.along h.begins (List.Subset.refl scripts)
  have hscripts : (scripts.map b.visit).map Visit.script = scripts := by
    simp [Function.comp_def]
  have hfound : world.scripts start settings.root =
      .ok ((scripts.map b.visit).map Visit.script) := by
    rw [hscripts, h.found]
  obtain ⟨state', -, hrun⟩ := exists_run_of_willing hfound hvisited hwilling elapsed
  refine ⟨_, hrun, ?_⟩
  rw [outcomes_of_trace, List.map_map]
  apply List.map_congr_left
  intro script _
  simp [Visit.completed, Behaviour.outcome_visit]

/-! ### Totals of scripts -/

theorem Behaviour.totals_eq_of_perm (b : Behaviour) (o : CheckOptions) (h : scripts.Perm scripts') :
    b.totals o scripts = b.totals o scripts' :=
  Suite.totals_eq_of_perm (h.map b.visit)

/-- A script that is no test counts in no bucket of tests, and declares nothing that counts. -/
theorem Behaviour.visit_of_not_isTest {script : Path} (h : ¬ b.IsTest script) (o : CheckOptions) :
    ((b.visit script).outcome o).isPassed = false ∧
      ((b.visit script).outcome o).isFailed = false ∧ (b.visit script).markers = 0 := by
  unfold Behaviour.visit
  cases hreading : Script.ofBytes (b.bytes script) with
  | excluded => exact ⟨rfl, rfl, rfl⟩
  | contradictory c => exact ⟨rfl, rfl, rfl⟩
  | accepted e => exact absurd ⟨e, hreading⟩ h

/-- Scripts that are no tests change neither the counts of tests nor that of declarations. -/
theorem Behaviour.totals_append (b : Behaviour) (o : CheckOptions) (scripts : List Path)
    {removed : List Path} (h : ∀ script ∈ removed, ¬ b.IsTest script) :
    (b.totals o (scripts ++ removed)).passed = (b.totals o scripts).passed ∧
      (b.totals o (scripts ++ removed)).failed = (b.totals o scripts).failed ∧
      (b.totals o (scripts ++ removed)).expectations = (b.totals o scripts).expectations := by
  have hcount : ∀ bucket : Outcome → Bool,
      (∀ script ∈ removed, bucket ((b.visit script).outcome o) = false) →
      (((scripts ++ removed).map b.visit).map (Visit.outcome o)).countP bucket =
        ((scripts.map b.visit).map (Visit.outcome o)).countP bucket := by
    intro bucket hbucket
    have hnone : ((removed.map b.visit).map (Visit.outcome o)).countP bucket = 0 := by
      rw [List.countP_eq_zero]
      simpa using hbucket
    rw [List.map_append, List.map_append, List.countP_append, hnone, Nat.add_zero]
  refine ⟨?_, ?_, ?_⟩
  · rw [Behaviour.totals, Behaviour.totals, passed_totals, passed_totals]
    exact hcount _ fun script hscript => (visit_of_not_isTest (h script hscript) o).1
  · rw [Behaviour.totals, Behaviour.totals, failed_totals, failed_totals]
    exact hcount _ fun script hscript => (visit_of_not_isTest (h script hscript) o).2.1
  · have hnone : ((removed.map b.visit).map Visit.markers).sum = 0 := by
      apply List.sum_eq_zero
      intro n hn
      rw [List.map_map] at hn
      obtain ⟨script, hscript, rfl⟩ := List.mem_map.1 hn
      exact (visit_of_not_isTest (h script hscript) o).2.2
    rw [Behaviour.totals, Behaviour.totals, expectations_totals, expectations_totals,
      List.map_append, List.map_append, List.sum_append, hnone, Nat.add_zero]

theorem Behaviour.isFailed_outcome (o : CheckOptions) (script : Path) :
    (b.outcome o script).isFailed = true ↔ ¬ b.Holds o script := by
  unfold Behaviour.outcome Behaviour.Holds
  cases Script.ofBytes (b.bytes script) with
  | excluded => simp [Outcome.isFailed]
  | contradictory c => simp [Outcome.isFailed]
  | accepted e =>
      cases hcheck : check o e (b.result script) with
      | nil => simp [Outcome.ofDiscrepancies, Outcome.isFailed, hcheck]
      | cons d ds => simp [Outcome.ofDiscrepancies, Outcome.isFailed, hcheck]

/-- No script has failed exactly if nothing is found on any test. -/
theorem Behaviour.allPassed_totals (b : Behaviour) (o : CheckOptions) (scripts : List Path) :
    (b.totals o scripts).allPassed = true ↔ ∀ script ∈ scripts, b.Holds o script := by
  rw [Tally.allPassed, decide_eq_true_eq, Behaviour.totals, failed_totals, List.map_map,
    List.countP_eq_zero]
  simp only [List.forall_mem_map, Function.comp_def, Behaviour.outcome_visit,
    Behaviour.isFailed_outcome, not_not]

end Conformance.Suite

namespace Conformance.Program

open Suite

variable {ω : Type} {settings : Settings} {world : World ω} {start : ω}

/-- How a suite runner ends after a run that gives totals. -/
theorem runSuiteIn_of_ok {out : Sink} {elapsed : Duration} {t : Tally} {s : Session Sink ω}
    (h : Suite.run settings world (reportOf settings.format).reporter out start elapsed =
      .ok t s) :
    (runSuiteIn settings world out start elapsed).exitCode = if t.allPassed then 0 else 1 := by
  unfold runSuiteIn suiteVerdict
  rw [h]
  dsimp only
  split <;> rfl

theorem runSuiteIn_of_error {out : Sink} {elapsed : Duration} {f : Failure} {s : Session Sink ω}
    (h : Suite.run settings world (reportOf settings.format).reporter out start elapsed =
      .error f s) :
    (runSuiteIn settings world out start elapsed).exitCode = 1 := by
  unfold runSuiteIn
  rw [h]
  rfl

/-- On steady scripts the suite runner succeeds exactly if nothing is found on any test. -/
theorem exitCode_of_steady {reached : ω → Prop} {scripts : List Path} {b : Behaviour}
    (h : Steady settings world reached start scripts b) (elapsed : Duration) :
    (runSuiteIn settings world {} start elapsed).exitCode =
      if (b.totals settings.check scripts).allPassed then 0 else 1 := by
  obtain ⟨s, hrun, -⟩ := h.exists_run
    (willing_of_unlimited (s := {}) (reportOf settings.format) rfl) elapsed
  exact runSuiteIn_of_ok hrun

/-- Scripts do not interfere.  Over scripts that have fixed bytes, and on each of which the
interpreter leaves a fixed run behind, the outcome of a script depends neither on the order of the
scripts nor on the others, and any order of them gives the same totals.  Scripts that are no tests
change neither the counts of tests and declarations nor the exit code, which is zero exactly if
nothing is found on any test, and one otherwise; it is one whenever a run ends early. -/
theorem outcomes_do_not_interfere {σ σ' ω' : Type} {reached : ω → Prop} {world' : World ω'}
    {reached' : ω' → Prop} {start' : ω'} {scripts scripts' : List Path} {b : Behaviour}
    (h : Steady settings world reached start scripts b)
    (h' : Steady settings world' reached' start' scripts' b)
    {reporter : Reporter σ} {state : σ} (hwilling : Willing reporter state)
    {reporter' : Reporter σ'} {state' : σ'} (hwilling' : Willing reporter' state')
    (elapsed elapsed' : Duration) :
    ∃ t s t' s',
      Suite.run settings world reporter state start elapsed = .ok t s ∧
      Suite.run settings world' reporter' state' start' elapsed' = .ok t' s' ∧
      s.outcomes = scripts.map (fun script => (script, b.outcome settings.check script)) ∧
      s'.outcomes = scripts'.map (fun script => (script, b.outcome settings.check script)) ∧
      (scripts.Perm scripts' → t = t') ∧
      (∀ removed, scripts.Perm (scripts' ++ removed) → (∀ script ∈ removed, ¬ b.IsTest script) →
        t.passed = t'.passed ∧ t.failed = t'.failed ∧ t.expectations = t'.expectations ∧
          (runSuiteIn settings world {} start elapsed).exitCode =
            (runSuiteIn settings world' {} start' elapsed').exitCode) ∧
      ((runSuiteIn settings world {} start elapsed).exitCode = 0 ↔
        ∀ script ∈ scripts, b.Holds settings.check script) ∧
      ((runSuiteIn settings world {} start elapsed).exitCode ≠ 0 →
        (runSuiteIn settings world {} start elapsed).exitCode = 1) ∧
      ∀ (τ : Type) (any : World τ) (first : τ) (out : Sink) (f : Failure) (last : Session Sink τ),
        Suite.run settings any (reportOf settings.format).reporter out first elapsed =
          .error f last →
        (runSuiteIn settings any out first elapsed).exitCode = 1 := by
  obtain ⟨s, hrun, houtcomes⟩ := h.exists_run hwilling elapsed
  obtain ⟨s', hrun', houtcomes'⟩ := h'.exists_run hwilling' elapsed'
  have hexit := exitCode_of_steady h elapsed
  have hexit' := exitCode_of_steady h' elapsed'
  refine ⟨_, s, _, s', hrun, hrun', houtcomes, houtcomes', ?_, ?_, ?_, ?_, ?_⟩
  · intro hperm
    exact b.totals_eq_of_perm settings.check hperm
  · intro removed hperm hremoved
    obtain ⟨hpassed, hfailed, hexpectations⟩ :=
      b.totals_append settings.check scripts' hremoved
    have hsame := b.totals_eq_of_perm settings.check hperm
    rw [← hsame] at hpassed hfailed hexpectations
    refine ⟨hpassed, hfailed, hexpectations, ?_⟩
    rw [hexit, hexit', Tally.allPassed, Tally.allPassed, hfailed]
  · rw [hexit, ← b.allPassed_totals]
    split <;> simp_all
  · rw [hexit]
    split <;> simp
  · intro τ any first out f last herror
    exact runSuiteIn_of_error herror

/-- What stands in the scripts of `smallWorld`, each of which prints `1`. -/
def smallBehaviour : Behaviour where
  bytes script :=
    match smallWorld.read 0 script with
    | .ok bytes => bytes
    | .error _ => []
  result _ := { stdout := "1\n".toList }

def smallWorldWith (scripts : List Path) : World Nat :=
  { smallWorld with scripts := fun _ _ => .ok scripts }

theorem steady_small (scripts : List Path) :
    Steady smallSettings (smallWorldWith scripts) (fun _ => True) 0 scripts smallBehaviour where
  found := rfl
  begins := trivial
  reads _ _ _ _ := rfl
  runs w _ _ _ _ := ⟨w + 1, rfl, trivial⟩

/-- Without its script that is no test and its contradictory one, and in another order, the suite
has the same counts of tests, and fails as it did. -/
theorem outcomes_do_not_interfere_small :
    let all := ["b".toList, "a".toList, "c".toList, "a".toList, "d".toList]
    let tests := ["d".toList, "a".toList, "a".toList]
    Steady smallSettings (smallWorldWith all) (fun _ => True) 0 all smallBehaviour ∧
      Steady smallSettings (smallWorldWith tests) (fun _ => True) 0 tests smallBehaviour ∧
      ∃ t s t' s',
        Suite.run smallSettings (smallWorldWith all) keepEvents [] 0 {} = .ok t s ∧
        Suite.run smallSettings (smallWorldWith tests) keepEvents [] 0 {} = .ok t' s' ∧
        t.passed = t'.passed ∧ t.failed = t'.failed ∧ t.expectations = t'.expectations ∧
        (runSuiteIn smallSettings (smallWorldWith all) {} 0 {}).exitCode = 1 ∧
        (runSuiteIn smallSettings (smallWorldWith tests) {} 0 {}).exitCode = 1 := by
  intro all tests
  have hwilling : Willing keepEvents [] := fun done => ⟨_, along_keepEvents [] done⟩
  obtain ⟨t, s, t', s', hrun, hrun', -, -, -, hremoved, hzero, hone, -⟩ :=
    outcomes_do_not_interfere (steady_small all) (steady_small tests) hwilling hwilling {} {}
  have hperm : all.Perm (tests ++ ["b".toList, "c".toList]) := by decide
  have hexcluded : Script.ofBytes (smallBehaviour.bytes "b".toList) = .excluded := by
    decide +kernel
  have hcontradictory : Script.ofBytes (smallBehaviour.bytes "c".toList) =
      .contradictory ⟨2, ["[1] 错误".toList]⟩ := by
    decide +kernel
  have hpassive : ∀ script ∈ ["b".toList, "c".toList], ¬ smallBehaviour.IsTest script := by
    rintro script hscript ⟨e, he⟩
    rcases List.mem_pair.1 hscript with rfl | rfl
    · rw [hexcluded] at he
      cases he
    · rw [hcontradictory] at he
      cases he
  have hread : Script.ofBytes (smallBehaviour.bytes "d".toList) =
      .accepted { output := [⟨1, ['2']⟩, ⟨2, ['3']⟩], markers := 2 } := by
    decide +kernel
  have hfails : (runSuiteIn smallSettings (smallWorldWith all) {} 0 {}).exitCode ≠ 0 := by
    intro hexit
    have hholds := hzero.1 hexit "d".toList (by decide) _ hread
    revert hholds
    decide
  obtain ⟨hpassed, hfailed, hexpectations, hexit⟩ := hremoved _ hperm hpassive
  exact ⟨steady_small all, steady_small tests, t, s, t', s', hrun, hrun', hpassed, hfailed,
    hexpectations, hone hfails, hexit ▸ hone hfails⟩

end Conformance.Program
