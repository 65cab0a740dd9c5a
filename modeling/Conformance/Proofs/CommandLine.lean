import Conformance.CommandLine.Benchmark
import Conformance.CommandLine.Suite
import Conformance.Proofs.Arguments
import Conformance.Proofs.Numeral

/-!
The settings that command lines ask for.  A suite or a benchmark can be started with any settings
whose paths are not empty, as far as there are options for them; the other settings are always the
default ones.
-/

namespace Conformance.CommandLine

open Grammar

theorem once_eq_ok_iff {α : Type} {old new : Option α} {read : Text → Except UsageError α}
    {t : Text} :
    once old read t = .ok new ↔ old = none ∧ ∃ a, read t = .ok a ∧ new = some a := by
  unfold once
  cases old with
  | none =>
      rw [Option.isSome_none, if_neg Bool.false_ne_true, map_eq_ok_iff]
      simp only [true_and, eq_comm (a := new)]
  | some a => simp

theorem path_eq_ok_iff {t t' : Text} : path t = .ok t' ↔ t ≠ [] ∧ t' = t := by
  unfold path
  split
  · next hnil => simp [hnil]
  · next hne => simp [hne, eq_comm]

theorem once_path_ne {old new : Option Path} {t : Text} (h : once old path t = .ok new) :
    new ≠ some [] := by
  obtain ⟨-, a, ha, rfl⟩ := once_eq_ok_iff.1 h
  obtain ⟨hne, rfl⟩ := path_eq_ok_iff.1 ha
  simpa using hne

theorem once_none_path {t : Text} (h : t ≠ []) : once none path t = .ok (some t) :=
  once_eq_ok_iff.2 ⟨rfl, t, path_eq_ok_iff.2 ⟨h, rfl⟩, rfl⟩

theorem mem_of_lookup {α β : Type} [BEq α] [LawfulBEq α] {k : α} {v : β} {l : List (α × β)}
    (h : l.lookup k = some v) : (k, v) ∈ l := by
  obtain ⟨front, back, rfl, -⟩ := List.lookup_eq_some_iff.1 h
  simp

section Suite

namespace SuiteArguments

/-- Paths that are given are not empty. -/
structure Sound (a : SuiteArguments) : Prop where
  interpreter : a.interpreter ≠ some []
  root : a.root ≠ some []

theorem keeps_interpreterSwitch : interpreterSwitch.Keeps Sound :=
  Switch.keeps_value fun _ _ _ ha hv => ⟨once_path_ne hv, ha.root⟩

theorem keeps_grammar : grammar.Keeps Sound where
  long name switch h := by
    have hmem := mem_of_lookup h
    simp only [List.mem_cons, Prod.mk.injEq, List.not_mem_nil, or_false] at hmem
    rcases hmem with ⟨-, rfl⟩ | ⟨-, rfl⟩ | ⟨-, rfl⟩ | ⟨-, rfl⟩ | ⟨-, rfl⟩ | ⟨-, rfl⟩
    · exact keeps_interpreterSwitch
    · exact Switch.keeps_value fun _ _ _ ha hv => ⟨ha.interpreter, once_path_ne hv⟩
    · intro a a' ha h
      dsimp only at h
      split at h
      · cases h
      · cases h
        exact ⟨ha.interpreter, ha.root⟩
    · exact Switch.keeps_value fun _ _ _ ha _ => ⟨ha.interpreter, ha.root⟩
    · exact keeps_help
    · exact keeps_version
  short c switch h := by
    have hmem := mem_of_lookup h
    simp only [List.mem_cons, Prod.mk.injEq, List.not_mem_nil, or_false] at hmem
    rcases hmem with ⟨-, rfl⟩ | ⟨-, rfl⟩ | ⟨-, rfl⟩
    · exact keeps_interpreterSwitch
    · exact keeps_help
    · exact keeps_version
  positional _ h := by cases h

end SuiteArguments

def formatWord : ReportFormat → Text
  | .console => "console".toList
  | .json => "json".toList

theorem readFormat_formatWord (format : ReportFormat) :
    SuiteArguments.readFormat (formatWord format) = .ok format := by
  cases format <;> decide

def suiteLine (s : Suite.Settings) : List Text :=
  attached "interpreter".toList s.interpreter :: attached "root".toList s.root ::
    attached "format".toList (formatWord s.format) ::
      match s.check.extent with
      | .lenient => []
      | .strict => ["--strict-output".toList]

theorem readSuite_suiteLine {s : Suite.Settings} (hinterpreter : s.interpreter ≠ [])
    (hroot : s.root ≠ []) :
    readSuite (suiteLine s) =
      .ok { interpreter := s.interpreter, root := s.root, check := { extent := s.check.extent },
            format := s.format } := by
  have hread : SuiteArguments.grammar.read {} (suiteLine s) =
      .ok ⟨some s.interpreter, some s.root, s.check.extent = .strict, some s.format⟩ := by
    rw [Grammar.read, suiteLine,
      readAll_attached { interpreter := some s.interpreter } rfl (by decide)
        (by rw [once_none_path hinterpreter]; rfl),
      readAll_attached { interpreter := some s.interpreter, root := some s.root } rfl (by decide)
        (by rw [once_none_path hroot]; rfl),
      readAll_attached
        { interpreter := some s.interpreter, root := some s.root, format := some s.format } rfl
        (by decide)
        (by rw [once_eq_ok_iff.2 ⟨rfl, s.format, readFormat_formatWord s.format, rfl⟩]; rfl)]
    cases s.check.extent with
    | lenient => rfl
    | strict => exact readAll_flag _ rfl (by decide) (by decide) rfl
  rw [readSuite, hread]
  cases s.check.extent <;> rfl

/-- Some command line asks for the settings of a suite exactly if their paths are not empty and the
filter and the cap are the default ones. -/
theorem exists_readSuite_iff {s : Suite.Settings} :
    (∃ args, readSuite args = .ok s) ↔
      s.interpreter ≠ [] ∧ s.root ≠ [] ∧ s.filter = ⟨"qi".toList, "benchmark".toList⟩ ∧
        s.check.cap = ({} : CheckOptions).cap := by
  constructor
  · rintro ⟨args, h⟩
    obtain ⟨a, ha, h⟩ := bind_eq_ok_iff.1 h
    have hsound := SuiteArguments.keeps_grammar.read ⟨by simp, by simp⟩ ha
    cases hinterpreter : a.interpreter with
    | none =>
        rw [hinterpreter] at h
        cases h
    | some interpreter =>
        rw [hinterpreter] at h
        cases h
        refine ⟨?_, ?_, rfl, rfl⟩
        · rintro rfl
          exact hsound.interpreter hinterpreter
        · cases hroot : a.root with
          | none => simp [SuiteArguments.settings, hroot]
          | some root =>
              have hne : root ≠ [] := by
                rintro rfl
                exact hsound.root hroot
              simpa [SuiteArguments.settings, hroot] using hne
  · rintro ⟨hinterpreter, hroot, hfilter, hcap⟩
    refine ⟨suiteLine s, (readSuite_suiteLine hinterpreter hroot).trans ?_⟩
    obtain ⟨interpreter, root, filter, ⟨cap, extent⟩, format⟩ := s
    obtain rfl : filter = _ := hfilter
    obtain rfl : cap = _ := hcap
    rfl

end Suite

section Benchmark

namespace BenchmarkArguments

/-- A root that is given is not empty. -/
def Sound (a : BenchmarkArguments) : Prop :=
  a.root ≠ some []

theorem keeps_grammar : grammar.Keeps Sound where
  long name switch h := by
    have hmem := mem_of_lookup h
    simp only [List.mem_cons, Prod.mk.injEq, List.not_mem_nil, or_false] at hmem
    rcases hmem with ⟨-, rfl⟩ | ⟨-, rfl⟩ | ⟨-, rfl⟩ | ⟨-, rfl⟩
    · exact Switch.keeps_value fun _ _ _ _ hv => once_path_ne hv
    · exact Switch.keeps_value fun _ _ _ ha _ => ha
    · exact keeps_help
    · exact keeps_version
  short c switch h := by
    have hmem := mem_of_lookup h
    simp only [List.mem_cons, Prod.mk.injEq, List.not_mem_nil, or_false] at hmem
    rcases hmem with ⟨-, rfl⟩ | ⟨-, rfl⟩
    · exact keeps_help
    · exact keeps_version
  positional set h := by
    cases h
    rintro t a a' ha ⟨⟩
    exact ha

theorem readTrials_ofNat (n : UInt64) : readTrials (Numeral.ofNat n.toNat) = .ok n := by
  have hdigits := Numeral.denotes_ofNat n.toNat
  have hplus : (Numeral.ofNat n.toNat).head? ≠ some '+' := by
    intro hhead
    have := hdigits.isDigit '+' (List.mem_of_head? hhead)
    revert this
    decide
  rw [readTrials, if_neg hplus, Numeral.word?_eq_some_iff.2 hdigits]

theorem readAll_names (names : List Text) (a : BenchmarkArguments) :
    grammar.readAll true names { args := a } = .ok { a with names := a.names ++ names } := by
  induction names generalizing a with
  | nil => simp [readAll, Progress.settle]
  | cons name names ih =>
      have hone : grammar.readPositional name { args := a } =
          .ok { args := { a with names := a.names ++ [name] } } := rfl
      rw [readAll, if_pos rfl, hone]
      exact (ih _).trans (by simp)

end BenchmarkArguments

open BenchmarkArguments

def trialsLine : Option UInt64 → List Text
  | none => []
  | some n => [attached "trials".toList (Numeral.ofNat n.toNat)]

def benchmarkLine (s : Benchmark.Settings) : List Text :=
  attached "root".toList s.root ::
    (trialsLine s.trials ++ ['-', '-'] :: (s.interpreters ++ [s.benchmark]))

theorem readAll_trialsLine (trials : Option UInt64) (root : Path) (rest : List Text) :
    grammar.readAll false (trialsLine trials ++ rest) { args := { root := some root } } =
      grammar.readAll false rest { args := { root := some root, trials := trials } } := by
  cases trials with
  | none => rfl
  | some n =>
      refine readAll_attached _ rfl (by decide) ?_
      rw [once_eq_ok_iff.2 ⟨rfl, n, readTrials_ofNat n, rfl⟩]
      rfl

theorem readBenchmark_benchmarkLine {s : Benchmark.Settings} (hinterpreters : s.interpreters ≠ [])
    (hroot : s.root ≠ []) :
    readBenchmark (benchmarkLine s) =
      .ok { interpreters := s.interpreters, benchmark := s.benchmark, root := s.root,
            trials := s.trials } := by
  have hread : grammar.read {} (benchmarkLine s) =
      .ok ⟨s.interpreters ++ [s.benchmark], some s.root, s.trials⟩ := by
    rw [Grammar.read, benchmarkLine,
      readAll_attached { root := some s.root } rfl (by decide)
        (by rw [once_none_path hroot]; rfl),
      readAll_trialsLine, readAll, if_neg Bool.false_ne_true, if_pos rfl, readAll_names]
    rfl
  have hsettings : benchmarkSettings? (s.interpreters ++ [s.benchmark]) s.root s.trials =
      some { interpreters := s.interpreters, benchmark := s.benchmark, root := s.root,
             trials := s.trials } := by
    simp [benchmarkSettings?, Benchmark.Settings.withInterpreters, hinterpreters]
  refine bind_eq_ok_iff.2 ⟨_, hread, ?_⟩
  simp only [Option.getD_some, hsettings]
  rfl

/-- Some command line asks for the settings of a benchmark exactly if they name an interpreter, the
root is not empty and the extension is the default one. -/
theorem exists_readBenchmark_iff {s : Benchmark.Settings} :
    (∃ args, readBenchmark args = .ok s) ↔
      s.interpreters ≠ [] ∧ s.root ≠ [] ∧ s.extension = "qi".toList := by
  constructor
  · rintro ⟨args, h⟩
    obtain ⟨a, ha, h⟩ := bind_eq_ok_iff.1 h
    have hsound : a.root ≠ some [] := keeps_grammar.read (by simp [Sound]) ha
    have hroot : a.root.getD "test/benchmark".toList ≠ [] := by
      cases hgiven : a.root with
      | none => simp
      | some root =>
          rintro rfl
          exact hsound hgiven
    unfold benchmarkSettings? at h
    cases hlast : a.names.getLast? with
    | none =>
        rw [hlast] at h
        cases h
    | some benchmark =>
        rw [hlast] at h
        cases h
        unfold Benchmark.Settings.withInterpreters
        split
        · exact ⟨by simp, hroot, rfl⟩
        · next hne => exact ⟨hne, hroot, rfl⟩
  · rintro ⟨hinterpreters, hroot, hextension⟩
    refine ⟨benchmarkLine s, (readBenchmark_benchmarkLine hinterpreters hroot).trans ?_⟩
    obtain ⟨interpreters, benchmark, root, extension, trials⟩ := s
    obtain rfl : extension = _ := hextension
    rfl

end Benchmark

end Conformance.CommandLine
