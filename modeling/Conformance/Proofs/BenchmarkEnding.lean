import Conformance.Program
import Conformance.Proofs.Trials

/-!
How the benchmark runner ends.  The budget of trials only tells how long one looks: an ending that
is seen within a budget is the only one.  With interpreters that always report times, a benchmark
ends exactly if it has a limit other than the greatest 64-bit word.
-/

namespace Conformance.Benchmark

variable {ω : Type} {settings : Settings} {runner : Runner ω} {reached : ω → Prop}

/-! ### The budget -/

/-- Trials that do not stop for lack of a budget go in the same way under a greater one. -/
theorem trialsFrom_add {number : UInt64} {budget : Nat} {s : Session ω}
    (h : ∀ s', trialsFrom settings runner number budget s ≠ .ok false s') (more : Nat) :
    trialsFrom settings runner number (budget + more) s =
      trialsFrom settings runner number budget s := by
  induction budget generalizing number s with
  | zero => exact absurd rfl (h s)
  | succ budget ih =>
      rw [Nat.add_right_comm]
      unfold trialsFrom at h ⊢
      by_cases hallowed : allowed settings.trials number = true
      · rw [if_pos hallowed] at h
        rw [if_pos hallowed, if_pos hallowed]
        cases htrial : trial settings runner number s with
        | ok _ next =>
            simp only [bind_of_ok htrial] at h ⊢
            exact ih h
        | error e next => rw [bind_of_error htrial, bind_of_error htrial]
      · rw [if_neg hallowed, if_neg hallowed]

/-! ### Interpreters that always report times -/

/-- In each of these states every interpreter reports a time, and leaves one of them behind. -/
def Answers (settings : Settings) (runner : Runner ω) (reached : ω → Prop) : Prop :=
  ∀ w, reached w → ∀ interpreter ∈ settings.interpreters, ∃ time after,
    Measured runner w (⟨interpreter, settings.script⟩, time) after ∧ reached after

theorem Answers.exists_measured (h : Answers settings runner reached)
    (hne : settings.interpreters ≠ []) (place count : Nat) {w : ω} (hw : reached w) :
    ∃ runs after, runs.map Prod.fst = settings.turns place count ∧
      Along (Measured runner) w runs after := by
  induction count generalizing place w with
  | zero => exact ⟨[], w, rfl, .nil⟩
  | succ count ih =>
      have hplace : place % settings.interpreters.length < settings.interpreters.length :=
        Nat.mod_lt place (List.length_pos_iff.2 hne)
      have hturn : settings.interpreters.getD (place % settings.interpreters.length) [] ∈
          settings.interpreters := by
        rw [List.getD_eq_getElem?_getD, List.getElem?_eq_getElem hplace, Option.getD_some]
        exact List.getElem_mem hplace
      obtain ⟨time, next, hmeasured, hnext⟩ := h w hw _ hturn
      obtain ⟨runs, after, hruns, hrest⟩ := ih (place + 1) hnext
      refine ⟨(settings.turn place, time) :: runs, after, ?_, .cons hmeasured hrest⟩
      rw [List.map_cons, hruns, Settings.turns_succ]

/-- A session in one of these states whose sink takes everything. -/
structure Session.Open (reached : ω → Prop) (s : Session ω) : Prop where
  world : reached s.world
  unlimited : s.sink.limit = none

theorem Answers.measureAll (h : Answers settings runner reached) {front : List Path}
    (hfront : front ⊆ settings.interpreters) (index : Nat) {s : Session ω} (hs : s.Open reached) :
    ∃ s', measureAll runner settings.script index front s = .ok () s' ∧ s'.Open reached := by
  induction front generalizing index s with
  | nil => exact ⟨s, rfl, hs⟩
  | cons interpreter front ih =>
      rw [List.cons_subset] at hfront
      obtain ⟨time, after, hmeasured, hafter⟩ := h s.world hs.world interpreter hfront.1
      have hnext : Session.Open reached { s.called ⟨interpreter, settings.script⟩ after with
          best := s.best.record index time } := ⟨hafter, hs.unlimited⟩
      obtain ⟨s', hs', hopen⟩ := ih hfront.2 (index + 1) hnext
      refine ⟨s', ?_, hopen⟩
      rw [Benchmark.measureAll, bind_of_ok (measure_of_measured hmeasured)]
      exact hs'

theorem Answers.trial (h : Answers settings runner reached) (number : UInt64) {s : Session ω}
    (hs : s.Open reached) :
    ∃ s', trial settings runner number s = .ok () s' ∧ s'.Open reached := by
  obtain ⟨measured, hmeasured, hopen⟩ := h.measureAll (List.Subset.refl _) 0 hs
  obtain ⟨sink, hsink, hlimit⟩ := Sink.writeAll_of_unlimited hopen.unlimited
    (trialLines settings number measured.best)
  refine ⟨{ measured with sink := sink }, ?_, hopen.world, hlimit⟩
  rw [Benchmark.trial, bind_of_ok hmeasured, report, hsink]

/-- Nothing ends the trials but their limit or their budget. -/
theorem Answers.trialsFrom (h : Answers settings runner reached) (number : UInt64) (budget : Nat)
    {s : Session ω} (hs : s.Open reached) :
    ∃ done s', trialsFrom settings runner number budget s = .ok done s' := by
  induction budget generalizing number s with
  | zero => exact ⟨false, s, rfl⟩
  | succ budget ih =>
      rw [Benchmark.trialsFrom]
      split
      · obtain ⟨next, hnext, hopen⟩ := h.trial number hs
        rw [bind_of_ok hnext]
        exact ih (number + 1) hopen
      · exact ⟨true, s, rfl⟩

end Conformance.Benchmark

namespace Conformance.Program

open Benchmark

variable {ω : Type} {settings : Benchmark.Settings} {runner : Runner ω} {reached : ω → Prop}
  {start : ω} {budget : Nat} {ending : Ending}

theorem runBenchmark_eq_none_iff :
    runBenchmark settings runner start budget = none ↔
      ∃ s, Benchmark.run settings runner {} start budget = .ok false s := by
  unfold runBenchmark
  cases Benchmark.run settings runner {} start budget with
  | ok done s => cases done <;> simp
  | error e s => simp

/-- Looking longer does not change an ending. -/
theorem runBenchmark_add (h : runBenchmark settings runner start budget = some ending) (more : Nat) :
    runBenchmark settings runner start (budget + more) = some ending := by
  have hdone : ∀ s, Benchmark.run settings runner {} start budget ≠ .ok false s := by
    intro s hrun
    rw [runBenchmark_eq_none_iff.2 ⟨s, hrun⟩] at h
    cases h
  rw [← h, runBenchmark, runBenchmark, Benchmark.run, trialsFrom_add hdone, ← Benchmark.run]

/-- A benchmark has at most one ending, whatever budgets it takes to see it. -/
theorem runBenchmark_unique {budget' : Nat} {ending' : Ending}
    (h : runBenchmark settings runner start budget = some ending)
    (h' : runBenchmark settings runner start budget' = some ending') : ending = ending' := by
  have hsame : some ending = some ending' := by
    rw [← runBenchmark_add h budget', Nat.add_comm, runBenchmark_add h' budget]
  exact Option.some.inj hsame

theorem runBenchmark_of_error {e : Benchmark.Failure} {s : Benchmark.Session ω}
    (h : Benchmark.run settings runner {} start budget = .error e s) :
    runBenchmark settings runner start budget =
      some (.of s.sink.bytes (.error (.ofMessage e.message))) := by
  rw [runBenchmark, h]

/-- Without a limit only a failure ends a benchmark. -/
theorem exitCode_eq_one_of_unlimited (htrials : settings.trials = none)
    (h : runBenchmark settings runner start budget = some ending) : ending.exitCode = 1 := by
  cases hrun : Benchmark.run settings runner {} start budget with
  | ok done s =>
      have hallowed : ∀ number, allowed settings.trials number = true := by
        rw [htrials]
        exact fun _ => rfl
      cases done with
      | true => exact absurd hrun (trialsFrom_ne_ok_true hallowed 1 budget _ s)
      | false =>
          rw [runBenchmark_eq_none_iff.2 ⟨s, hrun⟩] at h
          cases h
  | error e s =>
      rw [runBenchmark_of_error hrun] at h
      obtain rfl := Option.some.inj h
      rfl

/-- With interpreters that always report times, a benchmark under a limit succeeds as soon as the
budget is greater than the limit, and all that it has written are the reports on its trials. -/
theorem exists_runBenchmark_eq {limit : UInt64} (h : Answers settings runner reached)
    (hstart : reached start) (htrials : settings.trials = some limit)
    (hless : limit.toNat + 1 < UInt64.size) :
    ∃ times : List Float, times.length = limit.toNat * settings.interpreters.length ∧
      ∀ budget, runBenchmark settings runner start budget =
        if limit.toNat < budget then some { stdout := settings.written times limit.toNat }
        else none := by
  obtain ⟨runs, after, hruns, hmeasured⟩ : ∃ runs after,
      runs.map Prod.fst = settings.turns 0 (limit.toNat * settings.interpreters.length) ∧
        Along (Measured runner) start runs after := by
    by_cases hne : settings.interpreters = []
    · refine ⟨[], start, ?_, .nil⟩
      rw [hne, List.length_nil, Nat.mul_zero]
      rfl
    · exact h.exists_measured hne 0 _ hstart
  have hlength := Settings.length_of_turns hruns
  refine ⟨runs.map Prod.snd, by rw [List.length_map, hlength], fun budget => ?_⟩
  obtain ⟨s, hrun, hstands⟩ :=
    exists_run_eq_ok htrials hless (show ({} : Sink).limit = none from rfl) hruns hmeasured budget
  split
  · next hover =>
      rw [decide_eq_true hover] at hrun
      have hbytes := hstands.bytes
      rw [Nat.min_eq_right (Nat.le_of_lt hover), ← hlength, List.take_length] at hbytes
      rw [runBenchmark, hrun]
      simp only [hbytes]
      rfl
  · next hwithin =>
      rw [decide_eq_false hwithin] at hrun
      exact runBenchmark_eq_none_iff.2 ⟨s, hrun⟩

/-- With interpreters that always report times, a benchmark comes to an end exactly if it has a limit
other than the greatest 64-bit word. -/
theorem exists_ending_iff (h : Answers settings runner reached) (hstart : reached start) :
    (∃ budget ending, runBenchmark settings runner start budget = some ending) ↔
      ∃ limit, settings.trials = some limit ∧ limit.toNat + 1 < UInt64.size := by
  constructor
  · rintro ⟨budget, ending, hending⟩
    by_contra hnone
    -- Without a limit, or under the greatest word, the number of a trial never stops the next one.
    have hallowed : ∀ number, allowed settings.trials number = true := by
      intro number
      cases htrials : settings.trials with
      | none => rfl
      | some limit =>
          exact allowed_of_size_le (Nat.le_of_not_lt fun hless => hnone ⟨limit, htrials, hless⟩) number
    obtain ⟨done, s, hrun⟩ := h.trialsFrom 1 budget
      (s := { best := BestTimes.start settings.interpreters, sink := {}, world := start })
      ⟨hstart, rfl⟩
    cases done with
    | true => exact trialsFrom_ne_ok_true hallowed 1 budget _ s hrun
    | false =>
        rw [runBenchmark_eq_none_iff.2 ⟨s, hrun⟩] at hending
        cases hending
  · rintro ⟨limit, htrials, hless⟩
    obtain ⟨times, -, hruns⟩ := exists_runBenchmark_eq h hstart htrials hless
    exact ⟨limit.toNat + 1, _, (hruns _).trans (if_pos (Nat.lt_succ_self limit.toNat))⟩

end Conformance.Program
