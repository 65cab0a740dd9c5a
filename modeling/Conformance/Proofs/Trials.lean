import Conformance.Proofs.Sink
import Conformance.Proofs.Turns

/-!
What a benchmark has done after some turns.  As long as every call reports a time, the times
measured so far and the number of complete trials say everything: the best times, the calls and
what was written.  The first call that reports none ends the benchmark in the middle of its trial,
and the limit ends it between two trials.
-/

namespace Conformance.Benchmark

variable {ω α β : Type} {settings : Settings} {runner : Runner ω} {sink : Sink} {start : ω}

/-! ### Calls -/

/-- A call that comes back with a time, and the states of the world before and after it. -/
def Measured (runner : Runner ω) (before : ω) (m : Call × Float) (after : ω) : Prop :=
  ∃ r, runner m.1 before = .ok r after ∧ r.exitCode = 0 ∧ elapsed? r.stdout = some m.2

/-- A call that comes back without a time.  An interpreter that did not start is the first cause, a
failed run the second one, and output without a time the last one. -/
inductive Breaks (runner : Runner ω) (before : ω) (call : Call) : Failure → ω → Prop
  | launch {cause : Text} {after : ω} (hcall : runner call before = .error cause after) :
      Breaks runner before call (.launch ⟨call.interpreter, cause⟩) after
  | exited {r : Run} {after : ω} (hcall : runner call before = .ok r after)
      (hexit : r.exitCode ≠ 0) :
      Breaks runner before call (.exited call.interpreter r.exitCode r.stderr) after
  | unreadable {r : Run} {after : ω} (hcall : runner call before = .ok r after)
      (hexit : r.exitCode = 0) (hnone : elapsed? r.stdout = none) :
      Breaks runner before call (.unreadable call.interpreter r.stdout) after

def Session.called (s : Session ω) (call : Call) (after : ω) : Session ω :=
  { s with calls := s.calls ++ [call], world := after }

theorem measure_of_measured {s : Session ω} {call : Call} {time : Float} {after : ω}
    (h : Measured runner s.world (call, time) after) :
    measure runner call s = .ok time (s.called call after) := by
  obtain ⟨r, hcall, hexit, htime⟩ := h
  simp only [measure, hcall, timeOf, hexit, htime, ne_eq, not_true_eq_false, if_false]
  rfl

theorem measure_of_breaks {s : Session ω} {call : Call} {e : Failure} {after : ω}
    (h : Breaks runner s.world call e after) :
    measure runner call s = .error e (s.called call after) := by
  cases h with
  | launch hcall =>
      simp only [measure, hcall]
      rfl
  | exited hcall hexit =>
      simp only [measure, hcall, timeOf, hexit, ne_eq, not_false_eq_true, if_true]
      rfl
  | unreadable hcall hexit hnone =>
      simp only [measure, hcall, timeOf, hexit, hnone, ne_eq, not_true_eq_false, if_false]
      rfl

/-- A call that reports no time breaks the benchmark off. -/
theorem exists_breaks {before : ω} {call : Call}
    (h : ∀ time after, ¬ Measured runner before (call, time) after) :
    ∃ e after, Breaks runner before call e after := by
  cases hcall : runner call before with
  | error cause after => exact ⟨_, after, .launch hcall⟩
  | ok r after =>
      by_cases hexit : r.exitCode = 0
      · cases htime : elapsed? r.stdout with
        | none => exact ⟨_, after, .unreadable hcall hexit htime⟩
        | some time => exact absurd ⟨r, hcall, hexit, htime⟩ (h time after)
      · exact ⟨_, after, .exited hcall hexit⟩

/-- Measured calls in turn, cut at a place. -/
theorem exists_measured_split {runs : List (Call × Float)} {place count first : Nat}
    {before after : ω} (hruns : runs.map Prod.fst = settings.turns place count)
    (hmeasured : Along (Measured runner) before runs after) (hfirst : first ≤ count) :
    ∃ front back mid, runs = front ++ back ∧ front.length = first ∧
      front.map Prod.fst = settings.turns place first ∧
      back.map Prod.fst = settings.turns (place + first) (count - first) ∧
      Along (Measured runner) before front mid ∧ Along (Measured runner) mid back after := by
  have hsplit : runs.take first ++ runs.drop first = runs := List.take_append_drop first runs
  obtain ⟨hfront, hback⟩ := Settings.turns_split hruns hfirst
  rw [← List.map_take] at hfront
  rw [← List.map_drop] at hback
  rw [← hsplit] at hmeasured
  obtain ⟨mid, hmid, hrest⟩ := along_append_iff.1 hmeasured
  exact ⟨_, _, mid, hsplit.symm, Settings.length_of_turns hfront, hfront, hback, hmid, hrest⟩

theorem bind_of_ok {m : Step ω α} {next : α → Step ω β} {s s' : Session ω} {a : α}
    (h : m s = .ok a s') : (m >>= next) s = next a s' := by
  change EStateM.bind m next s = _
  rw [EStateM.bind, h]

theorem bind_of_error {m : Step ω α} {next : α → Step ω β} {s s' : Session ω} {e : Failure}
    (h : m s = .error e s') : (m >>= next) s = .error e s' := by
  change EStateM.bind m next s = _
  rw [EStateM.bind, h]

/-! ### Where a benchmark stands -/

/-- Where a benchmark stands after some measured calls and some complete trials. -/
structure Stands (settings : Settings) (runner : Runner ω) (sink : Sink) (start : ω)
    (runs : List (Call × Float)) (trials : Nat) (s : Session ω) : Prop where
  inTurn : runs.map Prod.fst = settings.turns 0 runs.length
  calls : s.calls = runs.map Prod.fst
  world : Along (Measured runner) start runs s.world
  best : s.best = settings.bestAfter (runs.map Prod.snd)
  complete : trials * settings.interpreters.length ≤ runs.length
  unlimited : s.sink.limit = none
  bytes : s.sink.bytes = sink.bytes ++ settings.written (runs.map Prod.snd) trials

variable {runs more : List (Call × Float)} {trials : Nat} {s : Session ω}

theorem stands_start (settings : Settings) (runner : Runner ω) (start : ω)
    (hlimit : sink.limit = none) :
    Stands settings runner sink start [] 0
      { best := BestTimes.start settings.interpreters, sink := sink, world := start } where
  inTurn := rfl
  calls := rfl
  world := .nil
  best := rfl
  complete := by simp
  unlimited := hlimit
  bytes := by simp

/-- One more time is kept as that of the interpreter whose turn it is. -/
theorem Stands.called {call : Call} {time : Float} {after : ω} {index : Nat}
    (h : Stands settings runner sink start runs trials s)
    (hcall : call = settings.turn runs.length)
    (hindex : index = runs.length % settings.interpreters.length)
    (hmeasured : Measured runner s.world (call, time) after) :
    Stands settings runner sink start (runs ++ [(call, time)]) trials
      { s.called call after with best := s.best.record index time } where
  inTurn := by
    rw [List.map_append, h.inTurn, List.length_append, List.length_singleton,
      Settings.turns_concat, Nat.zero_add, ← hcall]
    rfl
  calls := by
    rw [List.map_append, ← h.calls]
    rfl
  world := along_append_iff.2 ⟨s.world, h.world, .cons hmeasured .nil⟩
  best := by
    rw [List.map_append, List.map_singleton, Settings.bestAfter_concat, ← h.best,
      List.length_map, hindex]
  complete := by
    rw [List.length_append]
    exact Nat.le_add_right_of_le h.complete
  unlimited := h.unlimited
  bytes := by
    rw [List.map_append, Settings.written_append (by rw [List.length_map]; exact h.complete)]
    exact h.bytes

/-! ### A trial -/

theorem measureAll_append (runner : Runner ω) (script : Path) (index : Nat)
    (front back : List Path) :
    measureAll runner script index (front ++ back) =
      (do
        measureAll runner script index front
        measureAll runner script (index + front.length) back) := by
  induction front generalizing index with
  | nil => simp [measureAll]
  | cons interpreter front ih =>
      simp only [List.cons_append, measureAll, bind_assoc, ih, List.length_cons,
        Nat.add_right_comm index 1, ← Nat.add_assoc]

/-- Some interpreters of a trial report their times one after the other. -/
theorem Stands.measureAll {front back : List Path} {index : Nat} {after : ω}
    (h : Stands settings runner sink start runs trials s)
    (hfront : settings.interpreters.drop index = front ++ back)
    (hplace : runs.length = trials * settings.interpreters.length + index)
    (hmore : Along (Measured runner) s.world more after)
    (hturns : more.map Prod.fst = settings.turns runs.length front.length) :
    ∃ s', measureAll runner settings.script index front s = .ok () s' ∧ s'.world = after ∧
      Stands settings runner sink start (runs ++ more) trials s' := by
  induction front generalizing index runs more s with
  | nil =>
      obtain rfl : more = [] := List.map_eq_nil_iff.1 hturns
      refine ⟨s, rfl, along_nil_iff.1 hmore, ?_⟩
      rwa [List.append_nil]
  | cons interpreter front ih =>
      obtain ⟨hindex, hcall⟩ := Settings.turn_of_drop hfront trials
      rw [← hplace] at hindex hcall
      rw [List.length_cons, Settings.turns_succ] at hturns
      obtain ⟨⟨call, time⟩, others, rfl, rfl, hothers⟩ := List.map_eq_cons_iff.1 hturns
      obtain ⟨mid, hmeasured, hrest⟩ := along_cons_iff.1 hmore
      have hnext := h.called rfl hindex.symm hmeasured
      have hdrop : settings.interpreters.drop (index + 1) = front ++ back := by
        rw [← List.tail_drop, hfront]
        rfl
      obtain ⟨s', hs', hworld, hstands⟩ := ih hnext hdrop
        (by rw [List.length_append, hplace]; rfl) hrest (by simpa using hothers)
      refine ⟨s', ?_, hworld, by rwa [List.append_assoc] at hstands⟩
      rw [hcall] at hmeasured hs'
      rw [Benchmark.measureAll, bind_of_ok (measure_of_measured hmeasured)]
      exact hs'

/-- The report of a trial is written as soon as all its times are known. -/
theorem Stands.report (h : Stands settings runner sink start runs trials s)
    (hlength : runs.length = (trials + 1) * settings.interpreters.length) :
    ∃ s', report settings (UInt64.ofNat (trials + 1)) s = .ok () s' ∧ s'.world = s.world ∧
      Stands settings runner sink start runs (trials + 1) s' := by
  obtain ⟨next, hnext, hlimit⟩ := Sink.writeAll_of_unlimited h.unlimited
    (trialLines settings (UInt64.ofNat (trials + 1)) s.best)
  have htake : (runs.map Prod.snd).take ((trials + 1) * settings.interpreters.length) =
      runs.map Prod.snd := by
    rw [← hlength, ← List.length_map Prod.snd, List.take_length]
  refine ⟨{ s with sink := next }, ?_, rfl, ?_⟩
  · simp only [Benchmark.report, hnext]
  · refine { h with complete := hlength.ge, unlimited := hlimit, bytes := ?_ }
    rw [(Sink.writeAll_eq_ok hnext).2, h.bytes, Settings.written_succ, Settings.reportOn, htake,
      ← h.best, List.append_assoc]

theorem Stands.trial {after : ω} (h : Stands settings runner sink start runs trials s)
    (hlength : runs.length = trials * settings.interpreters.length)
    (hmore : Along (Measured runner) s.world more after)
    (hturns : more.map Prod.fst = settings.turns runs.length settings.interpreters.length) :
    ∃ s', trial settings runner (UInt64.ofNat (trials + 1)) s = .ok () s' ∧ s'.world = after ∧
      Stands settings runner sink start (runs ++ more) (trials + 1) s' := by
  have hall : settings.interpreters.drop 0 = settings.interpreters ++ [] := by
    rw [List.drop_zero, List.append_nil]
  obtain ⟨measured, hmeasured, rfl, hstands⟩ := h.measureAll hall hlength hmore hturns
  obtain ⟨s', hs', hworld, hreported⟩ := hstands.report
    (by rw [List.length_append, hlength, Settings.length_of_turns hturns, Nat.succ_mul])
  refine ⟨s', ?_, hworld, hreported⟩
  rw [Benchmark.trial, bind_of_ok hmeasured]
  exact hs'

/-- A call without a time ends the trial, and its report is not written. -/
theorem Stands.trial_of_breaks {before after : ω} {e : Failure}
    (h : Stands settings runner sink start runs trials s)
    (hlength : runs.length = trials * settings.interpreters.length)
    (hmore : Along (Measured runner) s.world more before)
    (hturns : more.map Prod.fst = settings.turns runs.length more.length)
    (hless : more.length < settings.interpreters.length)
    (hbreaks : Breaks runner before (settings.turn (runs.length + more.length)) e after)
    (number : UInt64) :
    ∃ s', Benchmark.trial settings runner number s = .error e (s'.called
        (settings.turn (runs.length + more.length)) after) ∧
      Stands settings runner sink start (runs ++ more) trials s' := by
  have hfront : settings.interpreters.drop 0 =
      settings.interpreters.take more.length ++ settings.interpreters.drop more.length :=
    (List.take_append_drop more.length settings.interpreters).symm
  have hcount : (settings.interpreters.take more.length).length = more.length :=
    List.length_take_of_le (Nat.le_of_lt hless)
  obtain ⟨s', hs', rfl, hstands⟩ := h.measureAll hfront hlength hmore (by rw [hcount, hturns])
  refine ⟨s', ?_, hstands⟩
  obtain ⟨interpreter, rest, hrest⟩ : ∃ interpreter rest,
      settings.interpreters.drop more.length = interpreter :: rest :=
    ⟨_, _, List.drop_eq_getElem_cons hless⟩
  have hcall := (Settings.turn_of_drop hrest trials).2
  rw [← hlength] at hcall
  rw [hcall] at hbreaks ⊢
  have hall : Benchmark.measureAll runner settings.script 0 settings.interpreters s =
      .error e (s'.called ⟨interpreter, settings.script⟩ after) := by
    rw [← List.take_append_drop more.length settings.interpreters, measureAll_append,
      bind_of_ok hs', hrest, Benchmark.measureAll, bind_of_error (measure_of_breaks hbreaks)]
  rw [Benchmark.trial, bind_of_error hall]

/-! ### All trials -/

theorem allowed_ofNat {bound : Option UInt64} {number : Nat}
    (h : ∀ limit, bound = some limit → number ≤ limit.toNat) :
    allowed bound (UInt64.ofNat number) = true := by
  cases bound with
  | none => rfl
  | some limit =>
      have hle : number ≤ limit.toNat := h limit rfl
      have hword : (UInt64.ofNat number).toNat = number :=
        UInt64.toNat_ofNat_of_lt' (Nat.lt_of_le_of_lt hle limit.toNat_lt)
      rw [allowed, decide_eq_true_eq, UInt64.le_iff_toNat_le, hword]
      exact hle

theorem ofNat_succ_add_one (number : Nat) :
    UInt64.ofNat (number + 1) + 1 = UInt64.ofNat (number + 1 + 1) := by
  rw [UInt64.ofNat_add (number + 1) 1]
  rfl

/-- While all calls report times the trials go by, as long as the limit allows them. -/
theorem Stands.trialsFrom {count : Nat} {after : ω}
    (h : Stands settings runner sink start runs trials s)
    (hlength : runs.length = trials * settings.interpreters.length)
    (hmore : Along (Measured runner) s.world more after)
    (hturns : more.map Prod.fst =
      settings.turns runs.length (count * settings.interpreters.length))
    (hlimit : ∀ limit, settings.trials = some limit → trials + count ≤ limit.toNat) :
    ∃ s', s'.world = after ∧ Stands settings runner sink start (runs ++ more) (trials + count) s' ∧
      ∀ budget, trialsFrom settings runner (UInt64.ofNat (trials + 1)) (count + budget) s =
        trialsFrom settings runner (UInt64.ofNat (trials + count + 1)) budget s' := by
  induction count generalizing runs more trials s with
  | zero =>
      rw [Nat.zero_mul] at hturns
      obtain rfl : more = [] := List.map_eq_nil_iff.1 hturns
      refine ⟨s, along_nil_iff.1 hmore, ?_, fun budget => ?_⟩
      · rwa [List.append_nil]
      · rw [Nat.zero_add, Nat.add_zero]
  | succ count ih =>
      have hfirst : settings.interpreters.length ≤ (count + 1) * settings.interpreters.length :=
        Nat.le_mul_of_pos_left _ (Nat.succ_pos count)
      obtain ⟨first, others, mid, rfl, hcount, hfirstTurns, hothers, hmid, hrest⟩ :=
        exists_measured_split hturns hmore hfirst
      rw [Nat.succ_mul, Nat.add_sub_cancel] at hothers
      obtain ⟨next, hnext, rfl, hstands⟩ := h.trial hlength hmid hfirstTurns
      have hnextLength : (runs ++ first).length = runs.length + settings.interpreters.length := by
        rw [List.length_append, hcount]
      obtain ⟨s', hworld, hlast, hbudget⟩ := ih hstands
        (by rw [hnextLength, hlength, Nat.succ_mul]) hrest (by rw [hnextLength, hothers])
        (fun limit hsome => (Nat.add_right_comm trials 1 count).trans_le (hlimit limit hsome))
      refine ⟨s', hworld, ?_, fun budget => ?_⟩
      · rwa [List.append_assoc, Nat.add_right_comm] at hlast
      · have hallowed : allowed settings.trials (UInt64.ofNat (trials + 1)) = true :=
          allowed_ofNat fun limit hsome =>
            Nat.le_trans (Nat.add_le_add_left (Nat.le_add_left 1 count) trials) (hlimit limit hsome)
        rw [Nat.add_right_comm, Benchmark.trialsFrom, if_pos hallowed, bind_of_ok hnext,
          ofNat_succ_add_one, hbudget, Nat.add_right_comm trials 1]
        rfl

/-! ### The end of a run -/

/-- Where a run stands after some whole trials in which every call has reported a time, and how it
goes on. -/
theorem exists_stands {count done : Nat} {after : ω} (hsink : sink.limit = none)
    (hruns : runs.map Prod.fst = settings.turns 0 done)
    (hmeasured : Along (Measured runner) start runs after)
    (hcount : count * settings.interpreters.length ≤ done)
    (hlimit : ∀ limit, settings.trials = some limit → count ≤ limit.toNat) :
    ∃ whole part s, runs = whole ++ part ∧
      whole.length = count * settings.interpreters.length ∧
      part.map Prod.fst = settings.turns whole.length part.length ∧
      Along (Measured runner) s.world part after ∧
      Stands settings runner sink start whole count s ∧
      ∀ budget, run settings runner sink start (count + budget) =
        trialsFrom settings runner (UInt64.ofNat (count + 1)) budget s := by
  obtain ⟨whole, part, mid, rfl, hwhole, hwholeTurns, hpartTurns, hmid, hpart⟩ :=
    exists_measured_split hruns hmeasured hcount
  rw [Nat.zero_add, ← hwhole, ← Settings.length_of_turns hpartTurns] at hpartTurns
  obtain ⟨s, rfl, hstands, hbudget⟩ := (stands_start settings runner start hsink).trialsFrom
    (by simp) hmid hwholeTurns (by simpa using hlimit)
  rw [List.nil_append, Nat.zero_add] at hstands
  simp only [Nat.zero_add] at hbudget
  exact ⟨whole, part, s, rfl, hwhole, hpartTurns, hpart, hstands, hbudget⟩

/-- A limit that allows every trial is never reached. -/
theorem trialsFrom_ne_ok_true (h : ∀ number, allowed settings.trials number = true)
    (number : UInt64) (budget : Nat) (s s' : Session ω) :
    trialsFrom settings runner number budget s ≠ .ok true s' := by
  induction budget generalizing number s with
  | zero => exact nofun
  | succ budget ih =>
      rw [trialsFrom, if_pos (h number)]
      cases htrial : trial settings runner number s with
      | ok _ next =>
          rw [bind_of_ok htrial]
          exact ih (number + 1) next
      | error e next =>
          rw [bind_of_error htrial]
          exact nofun

/-- No 64-bit word is beyond the greatest one. -/
theorem allowed_of_size_le {limit : UInt64} (h : UInt64.size ≤ limit.toNat + 1)
    (number : UInt64) : allowed (some limit) number = true := by
  have hnumber : number.toNat < UInt64.size := number.toNat_lt
  rw [allowed, decide_eq_true_eq, UInt64.le_iff_toNat_le]
  omega

theorem allowed_ofNat_succ {limit : UInt64} (h : limit.toNat + 1 < UInt64.size) :
    allowed (some limit) (UInt64.ofNat (limit.toNat + 1)) = false := by
  have hword : (UInt64.ofNat (limit.toNat + 1)).toNat = limit.toNat + 1 :=
    UInt64.toNat_ofNat_of_lt' h
  rw [allowed, decide_eq_false_iff_not, UInt64.le_iff_toNat_le, hword]
  omega

/-- A limit below the greatest one ends a run between two trials, as soon as the budget lets it go
so far. -/
theorem exists_run_eq_ok {limit : UInt64} {after : ω} (htrials : settings.trials = some limit)
    (hless : limit.toNat + 1 < UInt64.size) (hsink : sink.limit = none)
    (hruns : runs.map Prod.fst = settings.turns 0 (limit.toNat * settings.interpreters.length))
    (hmeasured : Along (Measured runner) start runs after) (budget : Nat) :
    ∃ s, run settings runner sink start budget = .ok (decide (limit.toNat < budget)) s ∧
      Stands settings runner sink start
        (runs.take (min budget limit.toNat * settings.interpreters.length))
        (min budget limit.toNat) s := by
  have hreached : min budget limit.toNat ≤ limit.toNat := Nat.min_le_right budget limit.toNat
  have hwithin : ∀ other, settings.trials = some other → min budget limit.toNat ≤ other.toNat := by
    rw [htrials]
    rintro other ⟨⟩
    exact hreached
  obtain ⟨whole, part, s, rfl, hwhole, -, -, hstands, hrun⟩ := exists_stands hsink hruns hmeasured
    (Nat.mul_le_mul_right settings.interpreters.length hreached) hwithin
  refine ⟨s, ?_, by rwa [List.take_left' hwhole]⟩
  rcases Nat.lt_or_ge limit.toNat budget with hover | hwithin
  · obtain ⟨more, rfl⟩ := Nat.exists_eq_add_of_lt hover
    rw [Nat.min_eq_right (Nat.le_of_lt hover)] at hrun
    rw [decide_eq_true hover, Nat.add_assoc, hrun (more + 1), trialsFrom, htrials,
      allowed_ofNat_succ hless]
    rfl
  · rw [Nat.min_eq_left hwithin] at hrun
    rw [decide_eq_false (Nat.not_lt_of_le hwithin)]
    exact hrun 0

/-- A benchmark whose calls all report times keeps its limit exactly if that is not the greatest
64-bit word.  Whatever budget of trials it is given, it ends by itself after as many trials as the
limit says and not before; in each of them every interpreter has been called once, in order, and
the report on each has been written.  The report announces the trial by its number. -/
theorem limit_kept_iff {limit : UInt64} {after : ω} (htrials : settings.trials = some limit)
    (hsink : sink.limit = none)
    (hruns : runs.map Prod.fst = settings.turns 0 (limit.toNat * settings.interpreters.length))
    (hmeasured : Along (Measured runner) start runs after) :
    ((∀ budget, ∃ s, run settings runner sink start budget = .ok (decide (limit.toNat < budget)) s ∧
        Stands settings runner sink start
          (runs.take (min budget limit.toNat * settings.interpreters.length))
          (min budget limit.toNat) s) ↔ limit.toNat + 1 < UInt64.size) ∧
      ∀ number, number ≤ limit.toNat → Announces number
        (settings.bestAfter
          ((runs.map Prod.snd).take (number * settings.interpreters.length))).entries
        (settings.reportOn (runs.map Prod.snd) number) := by
  refine ⟨⟨fun hkept => ?_, fun hless budget => ?_⟩, fun number hnumber => ?_⟩
  · by_contra hgreatest
    obtain ⟨s, hrun, -⟩ := hkept (limit.toNat + 1)
    rw [decide_eq_true (Nat.lt_succ_self limit.toNat)] at hrun
    refine trialsFrom_ne_ok_true (fun number => ?_) 1 (limit.toNat + 1) _ s hrun
    rw [htrials]
    exact allowed_of_size_le (Nat.le_of_not_lt hgreatest) number
  · exact exists_run_eq_ok htrials hless hsink hruns hmeasured budget
  · exact announces_reportOn settings _ (Nat.lt_of_le_of_lt hnumber limit.toNat_lt)

/-- Interpreters whose runs print these outputs one after the other. -/
def scripted : Runner (List Text) := fun _ outputs =>
  match outputs with
  | [] => .error "no more runs".toList []
  | output :: rest => .ok { stdout := output } rest

def pair : Settings :=
  { interpreters := ["fast".toList, "slow".toList], benchmark := "zoo".toList, trials := some 2 }

def firstReport : List Text :=
  ["trial #1\n".toList,
    "                            fast  best 2.0000s 100.0000% faster\n".toList,
    "                            slow  best 4.0000s 2.0000x time of best\n".toList]

theorem limit_kept_iff_pair :
    let outputs := ["2.0\n", "4.0\n", "1.0\n", "5.0\n"].map String.toList
    let runs := (pair.turns 0 4).zip [2.0, 4.0, 1.0, 5.0]
    pair.trials = some 2 ∧ runs.map Prod.fst = pair.turns 0 4 ∧
      Along (Measured scripted) outputs runs [] ∧
      (∃ s, run pair scripted {} outputs 3 = .ok true s ∧ s.calls = pair.turns 0 4 ∧
        s.sink.bytes = (firstReport ++ pair.reportOn [2.0, 4.0, 1.0, 5.0] 2).flatMap Text.toUtf8) ∧
      Announces 2 [("fast".toList, 1.0), ("slow".toList, 4.0)]
        (pair.reportOn [2.0, 4.0, 1.0, 5.0] 2) := by
  intro outputs runs
  have hruns : runs.map Prod.fst = pair.turns 0 4 := by decide +kernel
  have hmeasured : Along (Measured scripted) outputs runs [] :=
    .cons ⟨_, rfl, rfl, by decide +kernel⟩ (.cons ⟨_, rfl, rfl, by decide +kernel⟩
      (.cons ⟨_, rfl, rfl, by decide +kernel⟩ (.cons ⟨_, rfl, rfl, by decide +kernel⟩ .nil)))
  obtain ⟨hkept, hannounces⟩ := limit_kept_iff (show pair.trials = some 2 from rfl)
    (show ({} : Sink).limit = none from rfl) hruns hmeasured
  obtain ⟨s, hrun, hstands⟩ := hkept.2 (by decide) 3
  refine ⟨rfl, hruns, hmeasured, ⟨s, hrun, hstands.calls.trans hruns, ?_⟩,
    hannounces 2 (by decide)⟩
  rw [hstands.bytes]
  decide +kernel

/-- Without interpreters a trial takes no call at all. -/
def idle : Settings :=
  { interpreters := [], benchmark := "fib".toList, trials := some 18446744073709551615 }

theorem not_forall_limit_kept :
    ¬ ∀ (settings : Settings) (limit : UInt64) (sink : Sink) (runs : List (Call × Float))
      (outputs rest : List Text), settings.trials = some limit → sink.limit = none →
      runs.map Prod.fst = settings.turns 0 (limit.toNat * settings.interpreters.length) →
      Along (Measured scripted) outputs runs rest →
      ∃ budget s, run settings scripted sink outputs budget = .ok true s := by
  intro hkept
  obtain ⟨budget, s, hrun⟩ := hkept idle _ {} [] [] [] rfl rfl rfl .nil
  refine trialsFrom_ne_ok_true (fun number => ?_) 1 budget _ s hrun
  exact allowed_of_size_le (by decide) number

/-- The first call in turn that reports no time ends a benchmark with what befell it.  No further
call is made, and what was written are the reports on the trials that were complete by then. -/
theorem run_ends_at_first_break {done budget : Nat} {before : ω}
    (hne : settings.interpreters ≠ []) (hsink : sink.limit = none)
    (hruns : runs.map Prod.fst = settings.turns 0 done)
    (hmeasured : Along (Measured runner) start runs before)
    (hbroken : ∀ time after, ¬ Measured runner before (settings.turn done, time) after)
    (hlimit : ∀ limit, settings.trials = some limit →
      done / settings.interpreters.length < limit.toNat)
    (hbudget : done / settings.interpreters.length < budget) :
    ∃ e s, run settings runner sink start budget = .error e s ∧
      Breaks runner before (settings.turn done) e s.world ∧
      s.calls = settings.turns 0 (done + 1) ∧
      s.sink.bytes = sink.bytes ++
        settings.written (runs.map Prod.snd) (done / settings.interpreters.length) := by
  obtain ⟨e, after, hbreaks⟩ := exists_breaks hbroken
  -- First come the calls of the complete trials, then those of the trial that is broken off.
  obtain ⟨whole, part, s, rfl, hwhole, hpartTurns, hpart, hstands, hrun⟩ :=
    exists_stands hsink hruns hmeasured (Nat.div_mul_le_self done settings.interpreters.length)
      fun limit hsome => Nat.le_of_lt (hlimit limit hsome)
  have hdone : whole.length + part.length = done := by
    rw [← List.length_append, Settings.length_of_turns hruns]
  have hless : part.length < settings.interpreters.length := by
    have hpartLength : part.length = done % settings.interpreters.length := by
      rw [Nat.mod_eq_sub_div_mul, ← hwhole, Nat.sub_eq_of_eq_add' hdone.symm]
    rw [hpartLength]
    exact Nat.mod_lt done (List.length_pos_iff.2 hne)
  rw [← hdone] at hbreaks
  obtain ⟨s', htrial, hlast⟩ := hstands.trial_of_breaks hwhole hpart hpartTurns hless hbreaks
    (UInt64.ofNat (done / settings.interpreters.length + 1))
  rw [hdone] at htrial hbreaks
  obtain ⟨more, rfl⟩ := Nat.exists_eq_add_of_lt hbudget
  refine ⟨e, s'.called (settings.turn done) after, ?_, hbreaks, ?_, hlast.bytes⟩
  · have hallowed : allowed settings.trials
        (UInt64.ofNat (done / settings.interpreters.length + 1)) = true := allowed_ofNat hlimit
    rw [Nat.add_assoc, hrun, trialsFrom, if_pos hallowed, bind_of_error htrial]
  · have hcalls : s'.calls = settings.turns 0 done := hlast.calls.trans hruns
    rw [Session.called, hcalls, Settings.turns_concat, Nat.zero_add]

theorem run_ends_at_first_break_pair :
    let outputs := ["2.0\n", "4.0\n", "1.0\n", "oops\n"].map String.toList
    let runs := (pair.turns 0 3).zip [2.0, 4.0, 1.0]
    runs.map Prod.fst = pair.turns 0 3 ∧
      Along (Measured scripted) outputs runs ["oops\n".toList] ∧
      (∀ time after, ¬ Measured scripted ["oops\n".toList] (pair.turn 3, time) after) ∧
      ∃ s, run pair scripted {} outputs 2 =
          .error (.unreadable "slow".toList "oops\n".toList) s ∧
        s.calls = pair.turns 0 4 ∧ s.sink.bytes = firstReport.flatMap Text.toUtf8 := by
  intro outputs runs
  have hruns : runs.map Prod.fst = pair.turns 0 3 := by decide +kernel
  have hmeasured : Along (Measured scripted) outputs runs ["oops\n".toList] :=
    .cons ⟨_, rfl, rfl, by decide +kernel⟩ (.cons ⟨_, rfl, rfl, by decide +kernel⟩
      (.cons ⟨_, rfl, rfl, by decide +kernel⟩ .nil))
  have hbroken : ∀ time after,
      ¬ Measured scripted ["oops\n".toList] (pair.turn 3, time) after := by
    rintro time after ⟨r, hcall, -, htime⟩
    cases hcall
    exact absurd (htime.symm.trans (by decide +kernel : elapsed? "oops\n".toList = none)) nofun
  have hlimit : ∀ limit, pair.trials = some limit → 3 / pair.interpreters.length < limit.toNat := by
    rintro limit ⟨⟩
    decide
  obtain ⟨e, s, hrun, hbreaks, hcalls, hbytes⟩ := run_ends_at_first_break
    (show pair.interpreters ≠ [] by decide) (show ({} : Sink).limit = none from rfl) hruns hmeasured
    hbroken hlimit (show 3 / pair.interpreters.length < 2 by decide)
  refine ⟨hruns, hmeasured, hbroken, s, ?_, hcalls, ?_⟩
  · generalize s.world = after at hbreaks
    cases hbreaks with
    | launch hcall => cases hcall
    | exited hcall hexit =>
        cases hcall
        exact absurd rfl hexit
    | unreadable hcall =>
        cases hcall
        exact hrun
  · rw [hbytes]
    decide +kernel

end Conformance.Benchmark
