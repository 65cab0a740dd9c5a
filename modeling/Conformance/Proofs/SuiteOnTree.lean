import Conformance.Proofs.Discovery
import Conformance.Proofs.Independence
import Conformance.Proofs.Replay

/-!
The suite runner on a file tree.  What it runs are exactly the scripts below its root, so it succeeds
exactly if nothing is found on any test among them; a folder that cannot be searched ends it before
the first script, with a message and without a report.
-/

namespace Conformance.Suite

open Discovery

variable {σ ω : Type} {settings : Settings} {tree : ω → FileTree} {runner : Runner ω}
  {reached : ω → Prop} {start : ω} {top : FileTree} {b : Behaviour} {script : Path}

/-- In every state that a run can reach, a script has the same bytes; if it is a test, the
interpreter leaves the same run behind on it, and one of these states. -/
structure Unchanging (settings : Settings) (tree : ω → FileTree) (runner : Runner ω)
    (reached : ω → Prop) (b : Behaviour) (script : Path) : Prop where
  reads : ∀ w, reached w → (tree w).read script = .ok (b.bytes script)
  runs : b.IsTest script → ∀ w, reached w → ∃ after,
    runner ⟨settings.interpreter, script⟩ w = .ok (b.result script) after ∧ reached after

/-- An interpreter that leaves the tree as it is need only be looked at once. -/
theorem unchanging_of_leaves {runner : Runner FileTree} {root : FileTree}
    (hread : root.read script = .ok (b.bytes script))
    (hrun : runner ⟨settings.interpreter, script⟩ root = .ok (b.result script) root) :
    Unchanging settings id runner (· = root) b script where
  reads := by
    rintro _ rfl
    exact hread
  runs := by
    rintro - _ rfl
    exact ⟨_, hrun, rfl⟩

theorem steady_of_unchanging {scripts : List Path}
    (hfound : discover settings.filter (tree start) settings.root = .ok scripts)
    (hstart : reached start)
    (h : ∀ script ∈ scripts, Unchanging settings tree runner reached b script) :
    Steady settings (World.ofTree settings tree runner) reached start scripts b where
  found := hfound
  begins := hstart
  reads w hw script hscript := (h script hscript).reads w hw
  runs w hw script hscript htest := (h script hscript).runs htest w hw

/-- A root that is a file is the whole suite. -/
theorem steady_of_file {content : ByteArray} {executable : Bool}
    (hfind : (tree start).find settings.root = .ok (.file content executable))
    (hstart : reached start) (h : Unchanging settings tree runner reached b settings.root) :
    Steady settings (World.ofTree settings tree runner) reached start [settings.root] b :=
  steady_of_unchanging (by simp only [discover, hfind]) hstart (by simpa using h)

/-- If the search of a folder is not obstructed, the scripts below it make up the suite. -/
theorem exists_steady_of_folder (hfind : (tree start).find settings.root = .ok top)
    (hform : top.WellFormed) (htop : top.IsFolder)
    (hclear : ∀ row cause, ¬ Obstructed settings.filter settings.root top row cause)
    (hstart : reached start)
    (h : ∀ row, IsScript settings.filter top row →
      Unchanging settings tree runner reached b (Path.belowAll settings.root row)) :
    ∃ rows : List (List Text), rows.Pairwise (· < ·) ∧
      (∀ row, row ∈ rows ↔ IsScript settings.filter top row) ∧
      Steady settings (World.ofTree settings tree runner) reached start
        (rows.map (Path.belowAll settings.root)) b := by
  obtain ⟨rows, hfound, hsorted, hmem⟩ := exists_discover_eq_ok hfind hform htop hclear
  refine ⟨rows, hsorted, hmem, steady_of_unchanging hfound hstart ?_⟩
  rw [List.forall_mem_map]
  exact fun row hrow => h row ((hmem row).1 hrow)

/-- A suite on a tree gives each script below its root the outcome that it has by itself, in the
order of the names that lead to them. -/
theorem exists_run_on_tree (hfind : (tree start).find settings.root = .ok top)
    (hform : top.WellFormed) (htop : top.IsFolder)
    (hclear : ∀ row cause, ¬ Obstructed settings.filter settings.root top row cause)
    (hstart : reached start)
    (h : ∀ row, IsScript settings.filter top row →
      Unchanging settings tree runner reached b (Path.belowAll settings.root row))
    {reporter : Reporter σ} {state : σ} (hwilling : Willing reporter state) (elapsed : Duration) :
    ∃ (rows : List (List Text)) (t : Tally) (s : Session σ ω), rows.Pairwise (· < ·) ∧
      (∀ row, row ∈ rows ↔ IsScript settings.filter top row) ∧
      run settings (World.ofTree settings tree runner) reporter state start elapsed = .ok t s ∧
      s.outcomes = rows.map fun row =>
        (Path.belowAll settings.root row,
          b.outcome settings.check (Path.belowAll settings.root row)) := by
  obtain ⟨rows, hsorted, hmem, hsteady⟩ :=
    exists_steady_of_folder hfind hform htop hclear hstart h
  obtain ⟨s, hrun, houtcomes⟩ := hsteady.exists_run hwilling elapsed
  refine ⟨rows, _, s, hsorted, hmem, hrun, ?_⟩
  rw [houtcomes, List.map_map]
  rfl

end Conformance.Suite

namespace Conformance.Program

open Suite Discovery

variable {ω : Type} {settings : Suite.Settings} {runner : Runner FileTree}
  {reached : FileTree → Prop} {root top : FileTree} {b : Behaviour} {elapsed : Duration}

/-- A suite that is not found ends with what kept it from being found, and nothing is reported. -/
theorem runSuiteIn_of_not_found {world : World ω} {start : ω} {e : DiscoveryError}
    (h : world.scripts start settings.root = .error e) (out : Sink) (elapsed : Duration) :
    runSuiteIn settings world out start elapsed =
      .of out.bytes (.error (.ofMessage e.message)) := by
  have hrun : Suite.run settings world (reportOf settings.format).reporter out start elapsed =
      .error (.discovery e) { reporter := out, world := start } :=
    show (Setup.mk world _).run settings out start elapsed = _ from run_of_not_found h
  unfold runSuiteIn
  rw [hrun]
  rfl

theorem exitCode_runSuiteIn (settings : Suite.Settings) (world : World ω) (out : Sink) (start : ω)
    (elapsed : Duration) :
    (runSuiteIn settings world out start elapsed).exitCode = 0 ∨
      (runSuiteIn settings world out start elapsed).exitCode = 1 := by
  cases hrun : Suite.run settings world (reportOf settings.format).reporter out start elapsed with
  | ok t s =>
      rw [runSuiteIn_of_ok hrun]
      cases t.allPassed <;> simp
  | error f s => exact .inr (runSuiteIn_of_error hrun)

theorem exitCode_eq_zero_iff_of_steady {world : World ω} {reached : ω → Prop} {start : ω}
    {scripts : List Path} (h : Steady settings world reached start scripts b)
    (elapsed : Duration) :
    (runSuiteIn settings world {} start elapsed).exitCode = 0 ↔
      ∀ script ∈ scripts, b.Holds settings.check script := by
  rw [exitCode_of_steady h, ← b.allPassed_totals]
  cases (b.totals settings.check scripts).allPassed <;> simp

/-- On a folder whose search is not obstructed, the suite runner succeeds exactly if nothing is found
on any test below it. -/
theorem runSuite_folder (hfind : root.find settings.root = .ok top) (hform : top.WellFormed)
    (htop : top.IsFolder)
    (hclear : ∀ row cause, ¬ Obstructed settings.filter settings.root top row cause)
    (hroot : reached root)
    (h : ∀ row, IsScript settings.filter top row →
      Unchanging settings id runner reached b (Path.belowAll settings.root row)) :
    (runSuite settings runner root elapsed).exitCode = 0 ↔
      ∀ row, IsScript settings.filter top row →
        b.Holds settings.check (Path.belowAll settings.root row) := by
  obtain ⟨rows, -, hmem, hsteady⟩ := exists_steady_of_folder hfind hform htop hclear hroot h
  rw [runSuite, exitCode_eq_zero_iff_of_steady hsteady, List.forall_mem_map]
  exact forall_congr' fun row => by rw [hmem]

/-- On a file the suite runner succeeds exactly if nothing is found on it, should it be a test. -/
theorem runSuite_file {content : ByteArray} {executable : Bool}
    (hfind : root.find settings.root = .ok (.file content executable)) (hroot : reached root)
    (h : Unchanging settings id runner reached b settings.root) :
    (runSuite settings runner root elapsed).exitCode = 0 ↔
      b.Holds settings.check settings.root := by
  have hsteady : Steady settings (World.ofTree settings id runner) reached root [settings.root] b :=
    steady_of_file hfind hroot h
  rw [runSuite, exitCode_eq_zero_iff_of_steady hsteady]
  simp

/-- A folder that obstructs the search ends the suite runner with its name and what is wrong with it,
before anything is run or reported. -/
theorem runSuite_obstructed (hfind : root.find settings.root = .ok top) (hform : top.WellFormed)
    (htop : top.IsFolder) {row : List Text} {cause : FileError}
    (hobstructed : Obstructed settings.filter settings.root top row cause) :
    ∃ row cause, Obstructed settings.filter settings.root top row cause ∧
      runSuite settings runner root elapsed =
        .of [] (.error (.ofMessage (DiscoveryError.mk (Path.belowAll settings.root row)
          cause).message)) := by
  obtain ⟨row, cause, hrow, hfound⟩ := exists_discover_eq_error hfind hform htop hobstructed
  refine ⟨row, cause, hrow, ?_⟩
  rw [runSuite, runSuiteIn_of_not_found hfound]
  rfl

/-- A root that leads nowhere ends the suite runner in the same way. -/
theorem runSuite_missing {cause : FileError} (hfind : root.find settings.root = .error cause) :
    runSuite settings runner root elapsed =
      .of [] (.error (.ofMessage (DiscoveryError.mk settings.root cause).message)) := by
  have hfound : discover settings.filter root settings.root = .error ⟨settings.root, cause⟩ := by
    simp only [discover, hfind]
  rw [runSuite, runSuiteIn_of_not_found hfound]
  rfl

theorem exitCode_refuse (name usage : Text) (e : CommandLine.UsageError) :
    (refuse name usage e).exitCode = e.exitCode := by
  cases e <;> rfl

/-- A wrong command line, and nothing else, gives the suite runner the exit code two; the others are
zero and one. -/
theorem exitCode_suite (args : List Text) (runner : Runner FileTree) (root : FileTree)
    (elapsed : Duration) :
    ((suite args runner root elapsed).exitCode = 2 ↔
      ∃ e, CommandLine.readSuite args = .error e ∧ e ≠ .helpRequested ∧ e ≠ .versionRequested) ∧
    ((suite args runner root elapsed).exitCode = 0 ∨ (suite args runner root elapsed).exitCode = 1 ∨
      (suite args runner root elapsed).exitCode = 2) := by
  unfold suite
  cases CommandLine.readSuite args with
  | error e =>
      dsimp only
      rw [exitCode_refuse]
      cases e <;> simp [CommandLine.UsageError.exitCode]
  | ok settings =>
      have hcode := exitCode_runSuiteIn settings (World.ofTree settings id runner) {} root elapsed
      rw [← runSuite] at hcode
      rcases hcode with hcode | hcode <;> simp [hcode]

end Conformance.Program
