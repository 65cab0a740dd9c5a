import Conformance.Suite
import Mathlib.Algebra.Ring.Nat

/-!
What a suite does when nothing fails.  Each script is met once, in the order in which the scripts
were found; what is met there fixes its outcome, its share of the totals and its calls of the
interpreter, and with them the whole trace of the run.
-/

namespace Conformance

/-- Labelled steps one after the other, from a first state to a last one. -/
inductive Along {α β : Type} (step : α → β → α → Prop) : α → List β → α → Prop
  | nil {a : α} : Along step a [] a
  | cons {a b c : α} {label : β} {labels : List β} :
      step a label b → Along step b labels c → Along step a (label :: labels) c

section Along

variable {α β : Type} {step : α → β → α → Prop} {a c : α}

@[simp] theorem along_nil_iff : Along step a [] c ↔ a = c := by
  constructor
  · rintro ⟨⟩
    rfl
  · rintro rfl
    exact .nil

@[simp] theorem along_cons_iff {label : β} {labels : List β} :
    Along step a (label :: labels) c ↔ ∃ b, step a label b ∧ Along step b labels c := by
  constructor
  · rintro (_ | ⟨hstep, hrest⟩)
    exact ⟨_, hstep, hrest⟩
  · rintro ⟨b, hstep, hrest⟩
    exact .cons hstep hrest

theorem along_append_iff {front back : List β} :
    Along step a (front ++ back) c ↔ ∃ b, Along step a front b ∧ Along step b back c := by
  induction front generalizing a with
  | nil => simp
  | cons label front ih =>
      simp only [List.cons_append, along_cons_iff, ih]
      constructor
      · rintro ⟨b, hstep, d, hfront, hback⟩
        exact ⟨d, ⟨b, hstep, hfront⟩, hback⟩
      · rintro ⟨d, ⟨b, hstep, hfront⟩, hback⟩
        exact ⟨b, hstep, d, hfront, hback⟩

end Along

namespace Suite

/-- A script as a suite meets it: it is no test, contradicts itself, or is run. -/
inductive Visit where
  | excluded (script : Path)
  | contradictory (script : Path) (c : Contradiction)
  | tested (script : Path) (e : Expectation) (r : Run)

namespace Visit

def script : Visit → Path
  | .excluded script => script
  | .contradictory script _ => script
  | .tested script _ _ => script

/-- A run passes if there is no discrepancy, and fails with all of them otherwise. -/
def outcome (o : CheckOptions) : Visit → Outcome
  | .excluded _ => .skipped
  | .contradictory _ c => .invalid c
  | .tested _ e r =>
      if check o e r = [] then .passed else .failed ((check o e r).map Discrepancy.finding)

/-- The number of declarations that count; only those of a test do. -/
def markers : Visit → Nat
  | .tested _ e _ => e.markers
  | _ => 0

/-- The calls of an interpreter; only a test is run. -/
def calls (interpreter : Path) : Visit → List Call
  | .tested script _ _ => [⟨interpreter, script⟩]
  | _ => []

/-- The totals after one more visit: one more in the bucket of its outcome, and its
declarations. -/
def count (o : CheckOptions) (t : Tally) (v : Visit) : Tally where
  passed := t.passed + if v.outcome o matches .passed then 1 else 0
  failed := t.failed + if v.outcome o matches .failed _ then 1 else 0
  skipped := t.skipped + if v.outcome o matches .skipped then 1 else 0
  invalid := t.invalid + if v.outcome o matches .invalid _ then 1 else 0
  expectations := t.expectations + v.markers

theorem outcome_tested (o : CheckOptions) (script : Path) (e : Expectation) (r : Run) :
    (tested script e r).outcome o = Outcome.ofDiscrepancies (check o e r) := by
  rw [outcome]
  split
  next h => rw [h, Outcome.ofDiscrepancies]
  next h =>
    cases hfound : check o e r with
    | nil => exact absurd hfound h
    | cons first others => rfl

theorem count_excluded (o : CheckOptions) (t : Tally) (script : Path) :
    (excluded script).count o t = t.record .skipped := rfl

theorem count_contradictory (o : CheckOptions) (t : Tally) (script : Path) (c : Contradiction) :
    (contradictory script c).count o t = t.record (.invalid c) := rfl

/-- What a test declares is counted apart from its outcome, and before it. -/
theorem count_tested (o : CheckOptions) (t : Tally) (script : Path) (e : Expectation) (r : Run) :
    (tested script e r).count o t =
      (t.expect e).record (Outcome.ofDiscrepancies (check o e r)) := by
  rw [count, outcome_tested]
  cases check o e r <;> rfl

theorem files_count (o : CheckOptions) (t : Tally) (v : Visit) :
    (v.count o t).files = t.files + 1 := by
  cases v with
  | excluded script => rw [count_excluded, Tally.files_record]
  | contradictory script c => rw [count_contradictory, Tally.files_record]
  | tested script e r => rw [count_tested, Tally.files_record, Tally.files_expect]

end Visit

def totals (o : CheckOptions) (visits : List Visit) : Tally :=
  visits.foldl (Visit.count o) {}

theorem files_foldl_count (o : CheckOptions) (t : Tally) (visits : List Visit) :
    (visits.foldl (Visit.count o) t).files = t.files + visits.length := by
  induction visits generalizing t with
  | nil => rfl
  | cons v visits ih =>
      rw [List.foldl_cons, ih, Visit.files_count, List.length_cons]
      omega

theorem expectations_foldl_count (o : CheckOptions) (t : Tally) (visits : List Visit) :
    (visits.foldl (Visit.count o) t).expectations =
      t.expectations + (visits.map Visit.markers).sum := by
  induction visits generalizing t with
  | nil => rfl
  | cons v visits ih =>
      have hcount : (v.count o t).expectations = t.expectations + v.markers := rfl
      rw [List.foldl_cons, ih, List.map_cons, List.sum_cons, hcount]
      omega

/-- The events around some visits, with the totals before them. -/
def fileEvents (o : CheckOptions) : Tally → List Visit → List Event
  | _, [] => []
  | t, v :: rest =>
      .fileStart v.script t :: .fileComplete v.script (v.outcome o) (v.count o t) ::
        fileEvents o (v.count o t) rest

def events (o : CheckOptions) (elapsed : Duration) (visits : List Visit) : List Event :=
  .suiteStart visits.length :: fileEvents o {} visits ++
    [.suiteComplete (totals o visits) elapsed]

/-- All that is done at some visits, with the totals before them. -/
def fileActs (settings : Settings) : Tally → List Visit → List Act
  | _, [] => []
  | t, v :: rest =>
      .reported (.fileStart v.script t) :: .opened v.script ::
        (v.calls settings.interpreter).map .called ++
        .reported (.fileComplete v.script (v.outcome settings.check) (v.count settings.check t)) ::
        fileActs settings (v.count settings.check t) rest

/-- All that is done on a whole run over some visits. -/
def trace (settings : Settings) (elapsed : Duration) (visits : List Visit) : List Act :=
  .reported (.suiteStart visits.length) :: fileActs settings {} visits ++
    [.reported (.suiteComplete (totals settings.check visits) elapsed)]

theorem filterMap_call?_called (calls : List Call) :
    calls.filterMap (Act.call? ∘ Act.called) = calls := by
  simp [Function.comp_def, Act.call?]

theorem filterMap_event?_fileActs (settings : Settings) (t : Tally) (visits : List Visit) :
    (fileActs settings t visits).filterMap Act.event? = fileEvents settings.check t visits := by
  induction visits generalizing t with
  | nil => rfl
  | cons v visits ih =>
      simp [fileActs, fileEvents, List.filterMap_cons, Act.event?, ih]

theorem filterMap_call?_fileActs (settings : Settings) (t : Tally) (visits : List Visit) :
    (fileActs settings t visits).filterMap Act.call? =
      visits.flatMap (Visit.calls settings.interpreter) := by
  induction visits generalizing t with
  | nil => rfl
  | cons v visits ih =>
      simp [fileActs, List.filterMap_cons, Act.call?, filterMap_call?_called, ih]

theorem filterMap_event?_trace (settings : Settings) (elapsed : Duration) (visits : List Visit) :
    (trace settings elapsed visits).filterMap Act.event? =
      events settings.check elapsed visits := by
  simp [trace, events, Act.event?, filterMap_event?_fileActs]

theorem filterMap_call?_trace (settings : Settings) (elapsed : Duration) (visits : List Visit) :
    (trace settings elapsed visits).filterMap Act.call? =
      visits.flatMap (Visit.calls settings.interpreter) := by
  simp [trace, List.filterMap_cons, Act.call?, filterMap_call?_fileActs]

variable {σ ω α β : Type}

/-- The world lets a script be met in this way: it can be read, and the interpreter starts on it
if it is a test. -/
inductive Visited (world : World ω) (interpreter : Path) : ω → Visit → ω → Prop
  | excluded {w : ω} {script : Path} {bytes : List UInt8} :
      world.read w script = .ok bytes → Script.ofBytes bytes = .excluded →
      Visited world interpreter w (.excluded script) w
  | contradictory {w : ω} {script : Path} {bytes : List UInt8} {c : Contradiction} :
      world.read w script = .ok bytes → Script.ofBytes bytes = .contradictory c →
      Visited world interpreter w (.contradictory script c) w
  | tested {w after : ω} {script : Path} {bytes : List UInt8} {e : Expectation} {r : Run} :
      world.read w script = .ok bytes → Script.ofBytes bytes = .accepted e →
      world.run ⟨interpreter, script⟩ w = .ok r after →
      Visited world interpreter w (.tested script e r) after

/-- The reporter handles an event without failing. -/
def Handles (reporter : Reporter σ) (state : σ) (event : Event) (state' : σ) : Prop :=
  reporter event state = .ok () state'

/-- Nothing fails on a run over these visits: the scripts are found, each is read, the interpreter
starts on each test, and the reporter handles each event. -/
structure Unfailing (settings : Settings) (world : World ω) (reporter : Reporter σ)
    (elapsed : Duration) (state : σ) (start : ω) (visits : List Visit) (state' : σ) (after : ω) :
    Prop where
  found : world.scripts start settings.root = .ok (visits.map Visit.script)
  visited : Along (Visited world settings.interpreter) start visits after
  handled : Along (Handles reporter) state (events settings.check elapsed visits) state'

/-! ### What a step that succeeds has done -/

theorem bind_eq_ok_iff {m : Step σ ω α} {k : α → Step σ ω β} {s s₂ : Session σ ω} {b : β} :
    (m >>= k) s = .ok b s₂ ↔ ∃ a s₁, m s = .ok a s₁ ∧ k a s₁ = .ok b s₂ := by
  change EStateM.bind m k s = .ok b s₂ ↔ _
  unfold EStateM.bind
  cases m s with
  | ok a s₁ =>
      constructor
      · intro h
        exact ⟨a, s₁, rfl, h⟩
      · rintro ⟨_, _, ⟨⟩, h⟩
        exact h
  | error f s₁ => simp

theorem tally_eq_ok_iff {t : Tally} {s s₁ : Session σ ω} :
    tally s = .ok t s₁ ↔ t = s.tally ∧ s₁ = s := by
  simp [tally, eq_comm]

theorem notify_eq_ok_iff {reporter : Reporter σ} {event : Event} {u : Unit}
    {s s₁ : Session σ ω} :
    notify reporter event s = .ok u s₁ ↔
      ∃ state, Handles reporter s.reporter event state ∧
        s₁ = { s with log := s.log ++ [.reported event], reporter := state } := by
  unfold notify Handles
  cases reporter event s.reporter with
  | ok _ state => simp [Session.did, eq_comm]
  | error cause state => simp

theorem load_eq_ok_iff {world : World ω} {script : Path} {reading : Script.Reading}
    {s s₁ : Session σ ω} :
    load world script s = .ok reading s₁ ↔
      ∃ bytes, world.read s.world script = .ok bytes ∧ Script.ofBytes bytes = reading ∧
        s₁ = { s with log := s.log ++ [.opened script] } := by
  unfold load Script.load
  cases world.read s.world script with
  | ok bytes => simp [Session.did, eq_comm]
  | error cause => simp

theorem execute_eq_ok_iff {world : World ω} {call : Call} {r : Run} {s s₁ : Session σ ω} :
    execute world call s = .ok r s₁ ↔
      ∃ after, world.run call s.world = .ok r after ∧
        s₁ = { s with log := s.log ++ [.called call], world := after } := by
  unfold execute
  cases world.run call s.world with
  | ok r' after =>
      constructor
      · rintro ⟨⟩
        exact ⟨after, rfl, rfl⟩
      · rintro ⟨_, ⟨⟩, rfl⟩
        rfl
  | error cause after => simp

/-- A script that has an outcome was met in one way, which says all that was done. -/
theorem runFile_eq_ok_iff {settings : Settings} {world : World ω} {script : Path} {o : Outcome}
    {s s₁ : Session σ ω} :
    runFile settings world script s = .ok o s₁ ↔
      ∃ v : Visit, ∃ after, v.script = script ∧ o = v.outcome settings.check ∧
        Visited world settings.interpreter s.world v after ∧
        s₁ = { s with
          tally := v.count settings.check s.tally
          log := s.log ++ .opened script :: (v.calls settings.interpreter).map .called
          world := after } := by
  simp only [runFile, bind_eq_ok_iff, load_eq_ok_iff]
  constructor
  · rintro ⟨reading, _, ⟨bytes, hread, hreading, rfl⟩, hrest⟩
    cases reading with
    | excluded =>
        cases hrest
        exact ⟨.excluded script, _, rfl, rfl, .excluded hread hreading, rfl⟩
    | contradictory c =>
        cases hrest
        exact ⟨.contradictory script c, _, rfl, rfl, .contradictory hread hreading, rfl⟩
    | accepted e =>
        simp only [bind_eq_ok_iff, execute_eq_ok_iff] at hrest
        obtain ⟨_, _, ⟨⟩, r, _, ⟨after, hrun, rfl⟩, ⟨⟩⟩ := hrest
        refine ⟨.tested script e r, after, rfl, (Visit.outcome_tested ..).symm,
          .tested hread hreading hrun, ?_⟩
        rw [Visit.count_tested]
        simp [Visit.calls]
  · rintro ⟨v, after, rfl, rfl, hvisited, rfl⟩
    cases hvisited with
    | excluded hread hreading =>
        exact ⟨.excluded, _, ⟨_, hread, hreading, rfl⟩, rfl⟩
    | contradictory hread hreading =>
        exact ⟨.contradictory _, _, ⟨_, hread, hreading, rfl⟩, rfl⟩
    | tested hread hreading hrun =>
        refine ⟨.accepted _, _, ⟨_, hread, hreading, rfl⟩, ?_⟩
        simp only [bind_eq_ok_iff, execute_eq_ok_iff]
        refine ⟨(), _, rfl, _, _, ⟨_, hrun, rfl⟩, ?_⟩
        rw [Visit.outcome_tested, Visit.count_tested]
        simp [record, Visit.calls, Visit.script]

/-- Scripts that all have an outcome were met one after the other. -/
theorem runFiles_eq_ok_iff {settings : Settings} {world : World ω} {reporter : Reporter σ}
    {scripts : List Path} {u : Unit} {s s₁ : Session σ ω} :
    runFiles settings world reporter scripts s = .ok u s₁ ↔
      ∃ visits : List Visit, ∃ state after, visits.map Visit.script = scripts ∧
        Along (Visited world settings.interpreter) s.world visits after ∧
        Along (Handles reporter) s.reporter (fileEvents settings.check s.tally visits) state ∧
        s₁ = {
          tally := visits.foldl (Visit.count settings.check) s.tally
          log := s.log ++ fileActs settings s.tally visits
          reporter := state
          world := after } := by
  induction scripts generalizing s with
  | nil =>
      constructor
      · rintro ⟨⟩
        exact ⟨[], _, _, rfl, .nil, .nil, by simp [fileActs]⟩
      · rintro ⟨visits, state, after, hscripts, hvisited, hhandled, rfl⟩
        obtain rfl := List.map_eq_nil_iff.1 hscripts
        obtain rfl := along_nil_iff.1 hvisited
        obtain rfl := along_nil_iff.1 hhandled
        simp [runFiles, fileActs, pure, EStateM.pure]
  | cons script rest ih =>
      simp only [runFiles, bind_eq_ok_iff, tally_eq_ok_iff, notify_eq_ok_iff, runFile_eq_ok_iff,
        ih]
      constructor
      · rintro ⟨_, _, ⟨rfl, rfl⟩, _, _, ⟨started, hstarted, rfl⟩, _, _,
          ⟨v, met, rfl, rfl, hmet, rfl⟩, _, _, ⟨rfl, rfl⟩, _, _, ⟨ended, hended, rfl⟩,
          visits, state, after, rfl, hvisited, hhandled, rfl⟩
        exact ⟨v :: visits, state, after, rfl, .cons hmet hvisited,
          .cons hstarted (.cons hended hhandled), by simp [fileActs]⟩
      · rintro ⟨visits, state, after, hscripts, hvisited, hhandled, rfl⟩
        obtain ⟨v, visits, rfl, rfl, rfl⟩ := List.map_eq_cons_iff.1 hscripts
        obtain ⟨met, hmet, hvisited⟩ := along_cons_iff.1 hvisited
        obtain ⟨started, hstarted, hhandled⟩ := along_cons_iff.1 hhandled
        obtain ⟨ended, hended, hhandled⟩ := along_cons_iff.1 hhandled
        exact ⟨_, _, ⟨rfl, rfl⟩, (), _, ⟨started, hstarted, rfl⟩, _, _,
          ⟨v, met, rfl, rfl, hmet, rfl⟩, _, _, ⟨rfl, rfl⟩, (), _, ⟨ended, hended, rfl⟩,
          visits, state, after, rfl, hvisited, hhandled, by simp [fileActs]⟩

theorem findScripts_eq_ok_iff {settings : Settings} {world : World ω} {scripts : List Path}
    {s s₁ : Session σ ω} :
    findScripts settings world s = .ok scripts s₁ ↔
      world.scripts s.world settings.root = .ok scripts ∧ s₁ = s := by
  unfold findScripts
  cases world.scripts s.world settings.root <;> simp [eq_comm]

/-- A run that gives totals is one on which nothing failed, and has done all that its visits ask
for. -/
theorem run_eq_ok_iff {settings : Settings} {world : World ω} {reporter : Reporter σ} {state : σ}
    {start : ω} {elapsed : Duration} {t : Tally} {s : Session σ ω} :
    run settings world reporter state start elapsed = .ok t s ↔
      ∃ visits state' after,
        Unfailing settings world reporter elapsed state start visits state' after ∧
        t = totals settings.check visits ∧
        s = ⟨totals settings.check visits, trace settings elapsed visits, state', after⟩ := by
  simp only [run, steps, bind_eq_ok_iff, findScripts_eq_ok_iff, notify_eq_ok_iff,
    runFiles_eq_ok_iff, tally_eq_ok_iff]
  constructor
  · rintro ⟨scripts, _, ⟨hfound, rfl⟩, _, _, ⟨started, hstarted, rfl⟩, _, _,
      ⟨visits, handled, after, rfl, hvisited, hhandled, rfl⟩, _, _, ⟨rfl, rfl⟩, _, _,
      ⟨ended, hended, rfl⟩, rfl, rfl⟩
    rw [List.length_map] at hstarted
    have hevents : Along (Handles reporter) state (events settings.check elapsed visits) ended :=
      .cons hstarted (along_append_iff.2 ⟨handled, hhandled, .cons hended .nil⟩)
    exact ⟨visits, ended, after, ⟨hfound, hvisited, hevents⟩, rfl, by simp [trace, totals]⟩
  · rintro ⟨visits, ended, after, ⟨hfound, hvisited, hevents⟩, rfl, rfl⟩
    obtain ⟨started, hstarted, hevents⟩ := along_cons_iff.1 hevents
    obtain ⟨handled, hhandled, hlast⟩ := along_append_iff.1 hevents
    obtain ⟨_, hended, hnone⟩ := along_cons_iff.1 hlast
    obtain rfl := along_nil_iff.1 hnone
    refine ⟨_, _, ⟨hfound, rfl⟩, (), _, ⟨started, by simpa using hstarted, rfl⟩, (), _,
      ⟨visits, handled, after, rfl, hvisited, hhandled, rfl⟩, _, _, ⟨rfl, rfl⟩, (), _,
      ⟨_, hended, rfl⟩, ?_⟩
    simp [trace, totals]

/-- A run gives totals exactly when nothing fails on it.  The reporter then gets each event of its
visits once and in their order, the interpreter is called once on each test and on nothing else,
and the totals account for every script and every declaration of a test. -/
theorem run_ok_iff_unfailing {settings : Settings} {world : World ω} {reporter : Reporter σ}
    {state : σ} {start : ω} {elapsed : Duration} :
    ((∃ t s, run settings world reporter state start elapsed = .ok t s) ↔
        ∃ visits state' after,
          Unfailing settings world reporter elapsed state start visits state' after) ∧
      ∀ visits state' after,
        Unfailing settings world reporter elapsed state start visits state' after →
        ∃ s, run settings world reporter state start elapsed =
            .ok (totals settings.check visits) s ∧
          s.events = events settings.check elapsed visits ∧
          s.calls = visits.flatMap (Visit.calls settings.interpreter) ∧
          s.log = trace settings elapsed visits ∧ s.reporter = state' ∧ s.world = after ∧
          (totals settings.check visits).passed + (totals settings.check visits).failed +
            (totals settings.check visits).skipped + (totals settings.check visits).invalid =
              visits.length ∧
          (totals settings.check visits).expectations = (visits.map Visit.markers).sum := by
  have htrace : ∀ visits state' after,
      Unfailing settings world reporter elapsed state start visits state' after →
      run settings world reporter state start elapsed = .ok (totals settings.check visits)
        ⟨totals settings.check visits, trace settings elapsed visits, state', after⟩ :=
    fun visits state' after h => run_eq_ok_iff.2 ⟨visits, state', after, h, rfl, rfl⟩
  refine ⟨⟨?_, ?_⟩, ?_⟩
  · rintro ⟨t, s, hrun⟩
    obtain ⟨visits, state', after, h, -, -⟩ := run_eq_ok_iff.1 hrun
    exact ⟨visits, state', after, h⟩
  · rintro ⟨visits, state', after, h⟩
    exact ⟨_, _, htrace visits state' after h⟩
  · intro visits state' after h
    have hfiles := files_foldl_count settings.check {} visits
    have hexpectations := expectations_foldl_count settings.check {} visits
    refine ⟨_, htrace visits state' after h, filterMap_event?_trace .., filterMap_call?_trace ..,
      rfl, rfl, rfl, ?_, ?_⟩
    · rw [← Tally.files, totals, hfiles]
      exact Nat.zero_add _
    · rw [totals, hexpectations]
      exact Nat.zero_add _

/-- Scripts by their names, all of which print `1` when they are run; the state of this world is
the number of runs so far. -/
def smallWorld : World Nat where
  scripts := fun _ _ => .ok ["b".toList, "a".toList, "c".toList, "a".toList, "d".toList]
  read := fun _ script => .ok (Text.toUtf8 (
    if script = "a".toList then "// expect: 1".toList
    else if script = "b".toList then "// nontest".toList
    else if script = "c".toList then "// 错误\n// expect runtime error: x".toList
    else "// expect: 2\n// expect: 3".toList))
  run := fun _ runs => .ok { stdout := "1\n".toList } (runs + 1)

def smallVisits : List Visit :=
  let one : Expectation := { output := [⟨1, ['1']⟩], markers := 1 }
  let two : Expectation := { output := [⟨1, ['2']⟩, ⟨2, ['3']⟩], markers := 2 }
  let printed : Run := { stdout := "1\n".toList }
  [.excluded "b".toList, .tested "a".toList one printed,
    .contradictory "c".toList ⟨2, ["[1] 错误".toList]⟩, .tested "a".toList one printed,
    .tested "d".toList two printed]

def keepEvents : Reporter (List Event) := fun event kept => .ok () (kept ++ [event])

theorem along_keepEvents (kept all : List Event) :
    Along (Handles keepEvents) kept all (kept ++ all) := by
  induction all generalizing kept with
  | nil => simp
  | cons event rest ih =>
      have hrest := ih (kept ++ [event])
      rw [List.append_assoc, List.singleton_append] at hrest
      exact .cons rfl hrest

def smallSettings : Settings := { interpreter := "qi".toList }

theorem unfailing_small :
    Unfailing smallSettings smallWorld keepEvents {} [] 0 smallVisits
      (events {} {} smallVisits) 3 where
  found := rfl
  visited :=
    .cons (.excluded rfl (by decide +kernel)) <|
      .cons (.tested rfl (by decide +kernel) rfl) <|
      .cons (.contradictory rfl (by decide +kernel)) <|
      .cons (.tested rfl (by decide +kernel) rfl) <|
      .cons (.tested rfl (by decide +kernel) rfl) .nil
  handled := along_keepEvents [] _

theorem run_ok_iff_unfailing_small :
    Unfailing smallSettings smallWorld keepEvents {} [] 0 smallVisits
        (events {} {} smallVisits) 3 ∧
      ∃ s, run smallSettings smallWorld keepEvents [] 0 {} =
          .ok ⟨2, 1, 1, 1, 4⟩ s ∧
        s.events = events {} {} smallVisits ∧
        s.calls = ["a", "a", "d"].map fun name => ⟨"qi".toList, name.toList⟩ := by
  have htotals : totals {} smallVisits = ⟨2, 1, 1, 1, 4⟩ := by decide
  obtain ⟨s, hrun, hevents, hcalls, -⟩ := run_ok_iff_unfailing.2 _ _ _ unfailing_small
  refine ⟨unfailing_small, s, ?_, hevents, hcalls⟩
  rw [← htotals]
  exact hrun

end Suite

end Conformance
