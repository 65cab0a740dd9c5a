import Conformance.Proofs.Outcomes

/-!
The totals when scripts are asked for one by one and some of the requests fail.  A script that
cannot be read leaves the totals alone.  A test on which the interpreter does not start has been
accepted before that, so its declarations count although it has no outcome.
-/

namespace Conformance.Suite

variable {σ ω α β : Type}

structure Request (ω : Type) where
  settings : Settings
  world : World ω
  script : Path

/-- Asks for a script; what has been counted stays when the request fails. -/
def Request.ask (q : Request ω) (s : Session σ ω) : Except Failure Outcome × Session σ ω :=
  match runFile q.settings q.world q.script s with
  | .ok o s' => (.ok o, s')
  | .error f s' => (.error f, s')

/-- Asks for one script after the other, whatever comes of each. -/
def askAll : List (Request ω) → Session σ ω → List (Except Failure Outcome) × Session σ ω
  | [], s => ([], s)
  | q :: rest, s =>
      ((q.ask s).1 :: (askAll rest (q.ask s).2).1, (askAll rest (q.ask s).2).2)

inductive Attempt where
  /-- The script has an outcome, and makes so many declarations that count. -/
  | met (outcome : Outcome) (markers : Nat)
  /-- The script cannot be read. -/
  | unread (e : ReadError)
  /-- The interpreter does not start on a test that makes so many declarations. -/
  | unstarted (e : LaunchError) (markers : Nat)

namespace Attempt

def result : Attempt → Except Failure Outcome
  | .met outcome _ => .ok outcome
  | .unread e => .error (.reading e)
  | .unstarted e _ => .error (.launch e)

def outcome? : Attempt → Option Outcome
  | .met outcome _ => some outcome
  | _ => none

def markers : Attempt → Nat
  | .met _ markers => markers
  | .unread _ => 0
  | .unstarted _ markers => markers

/-- The totals after the request: one more in the bucket of the outcome, if there is one, and the
declarations. -/
def count (t : Tally) (a : Attempt) : Tally where
  passed := t.passed + a.outcome?.toList.countP Outcome.isPassed
  failed := t.failed + a.outcome?.toList.countP Outcome.isFailed
  skipped := t.skipped + a.outcome?.toList.countP Outcome.isSkipped
  invalid := t.invalid + a.outcome?.toList.countP Outcome.isInvalid
  expectations := t.expectations + a.markers

theorem count_met (o : CheckOptions) (t : Tally) (v : Visit) :
    count t (.met (v.outcome o) v.markers) = v.count o t := by
  unfold count Visit.count
  cases v.outcome o <;>
    simp [outcome?, markers, Outcome.isPassed, Outcome.isFailed, Outcome.isSkipped,
      Outcome.isInvalid]

/-- The totals after some requests hold the outcomes that there are, and the declarations of all
accepted scripts. -/
theorem foldl_count (t : Tally) (attempts : List Attempt) :
    attempts.foldl count t =
      { passed := t.passed + (attempts.filterMap outcome?).countP Outcome.isPassed
        failed := t.failed + (attempts.filterMap outcome?).countP Outcome.isFailed
        skipped := t.skipped + (attempts.filterMap outcome?).countP Outcome.isSkipped
        invalid := t.invalid + (attempts.filterMap outcome?).countP Outcome.isInvalid
        expectations := t.expectations + (attempts.map markers).sum } := by
  induction attempts generalizing t with
  | nil => rfl
  | cons a attempts ih =>
      have hcons : (a :: attempts).filterMap outcome? =
          a.outcome?.toList ++ attempts.filterMap outcome? := by
        cases a <;> rfl
      rw [List.foldl_cons, ih, hcons]
      simp only [count, List.countP_append, List.map_cons, List.sum_cons, Nat.add_assoc]

end Attempt

/-- The world lets this come of a request: the script is met, cannot be read, or is a test on which
the interpreter does not start. -/
inductive Attempted (q : Request ω) : ω → Attempt → ω → Prop
  | met {w after : ω} {v : Visit} :
      v.script = q.script → Visited q.world q.settings.interpreter w v after →
      Attempted q w (.met (v.outcome q.settings.check) v.markers) after
  | unread {w : ω} {cause : FileError} :
      q.world.read w q.script = .error cause →
      Attempted q w (.unread ⟨q.script, cause⟩) w
  | unstarted {w after : ω} {bytes : List UInt8} {e : Expectation} {cause : Text} :
      q.world.read w q.script = .ok bytes → Script.ofBytes bytes = .accepted e →
      q.world.run ⟨q.settings.interpreter, q.script⟩ w = .error cause after →
      Attempted q w (.unstarted ⟨q.settings.interpreter, cause⟩ e.markers) after

/-! ### What a step that fails has done -/

theorem bind_eq_error_iff {m : Step σ ω α} {k : α → Step σ ω β} {s s₂ : Session σ ω}
    {f : Failure} :
    (m >>= k) s = .error f s₂ ↔
      m s = .error f s₂ ∨ ∃ a s₁, m s = .ok a s₁ ∧ k a s₁ = .error f s₂ := by
  change EStateM.bind m k s = .error f s₂ ↔ _
  unfold EStateM.bind
  cases m s with
  | ok a s₁ =>
      constructor
      · intro h
        exact .inr ⟨a, s₁, rfl, h⟩
      · rintro (⟨⟨⟩⟩ | ⟨_, _, ⟨⟩, h⟩)
        exact h
  | error f' s₁ => simp

theorem load_eq_error_iff {world : World ω} {script : Path} {f : Failure}
    {s s₁ : Session σ ω} :
    load world script s = .error f s₁ ↔ ∃ cause, world.read s.world script = .error cause ∧
      f = .reading ⟨script, cause⟩ ∧ s₁ = s.did (.opened script) := by
  unfold load Script.load
  cases world.read s.world script with
  | ok bytes => simp
  | error cause => simp [eq_comm]

theorem execute_eq_error_iff {world : World ω} {call : Call} {f : Failure}
    {s s₁ : Session σ ω} :
    execute world call s = .error f s₁ ↔ ∃ cause after,
      world.run call s.world = .error cause after ∧ f = .launch ⟨call.interpreter, cause⟩ ∧
      s₁ = ({ s with world := after } : Session σ ω).did (.called call) := by
  unfold execute
  cases world.run call s.world with
  | ok r after => simp
  | error cause after =>
      constructor
      · rintro ⟨⟩
        exact ⟨cause, after, rfl, rfl, rfl⟩
      · rintro ⟨_, _, ⟨⟩, rfl, rfl⟩
        rfl

/-- A request fails in two ways, and only the first one leaves the totals alone. -/
theorem runFile_eq_error {settings : Settings} {world : World ω} {script : Path} {f : Failure}
    {s s₁ : Session σ ω} (h : runFile settings world script s = .error f s₁) :
    (∃ cause, world.read s.world script = .error cause ∧ f = .reading ⟨script, cause⟩ ∧
        s₁.tally = s.tally ∧ s₁.world = s.world) ∨
      ∃ bytes e cause after, world.read s.world script = .ok bytes ∧
        Script.ofBytes bytes = .accepted e ∧
        world.run ⟨settings.interpreter, script⟩ s.world = .error cause after ∧
        f = .launch ⟨settings.interpreter, cause⟩ ∧ s₁.tally = s.tally.expect e ∧
        s₁.world = after := by
  simp only [runFile, bind_eq_error_iff, load_eq_error_iff, load_eq_ok_iff] at h
  rcases h with ⟨cause, hread, rfl, rfl⟩ | ⟨reading, _, ⟨bytes, hread, hreading, rfl⟩, h⟩
  · exact .inl ⟨cause, hread, rfl, rfl, rfl⟩
  · cases reading with
    | excluded => cases h
    | contradictory c => cases h
    | accepted e =>
        simp only [bind_eq_error_iff, execute_eq_error_iff] at h
        rcases h with ⟨⟨⟩⟩ | ⟨_, _, ⟨⟩, ⟨cause, after, hrun, rfl, rfl⟩ | ⟨_, _, _, ⟨⟩⟩⟩
        exact .inr ⟨bytes, e, cause, after, hread, hreading, hrun, rfl, rfl, rfl⟩

/-- Each request comes to something that the world allows, and the totals count it. -/
theorem exists_attempted (q : Request ω) (s : Session σ ω) :
    ∃ a, Attempted q s.world a (q.ask s).2.world ∧ (q.ask s).1 = a.result ∧
      (q.ask s).2.tally = a.count s.tally := by
  unfold Request.ask
  cases hrun : runFile q.settings q.world q.script s with
  | ok o s₁ =>
      obtain ⟨v, after, hscript, rfl, hvisited, rfl⟩ := runFile_eq_ok_iff.1 hrun
      exact ⟨_, .met hscript hvisited, rfl, (Attempt.count_met ..).symm⟩
  | error f s₁ =>
      rcases runFile_eq_error hrun with ⟨cause, hread, rfl, htally, hworld⟩ |
        ⟨bytes, e, cause, after, hread, haccepted, hstart, rfl, htally, rfl⟩
      · refine ⟨.unread ⟨q.script, cause⟩, ?_, rfl, htally⟩
        rw [hworld]
        exact .unread hread
      · exact ⟨.unstarted ⟨q.settings.interpreter, cause⟩ e.markers,
          .unstarted hread haccepted hstart, rfl, htally⟩

theorem exists_attempts (requests : List (Request ω)) (s : Session σ ω) :
    ∃ attempts : List (Request ω × Attempt), attempts.map Prod.fst = requests ∧
      Along (fun w attempt w' => Attempted attempt.1 w attempt.2 w') s.world attempts
        (askAll requests s).2.world ∧
      (askAll requests s).1 = attempts.map (fun attempt => attempt.2.result) ∧
      (askAll requests s).2.tally = (attempts.map Prod.snd).foldl Attempt.count s.tally := by
  induction requests generalizing s with
  | nil => exact ⟨[], rfl, .nil, rfl, rfl⟩
  | cons q requests ih =>
      obtain ⟨a, hattempted, hresult, htally⟩ := exists_attempted q s
      obtain ⟨attempts, hrequests, halong, hresults, htotals⟩ := ih (q.ask s).2
      refine ⟨(q, a) :: attempts, by simp [hrequests], .cons hattempted halong, ?_, ?_⟩
      · rw [askAll, hresult, hresults]
        rfl
      · rw [askAll, htotals, htally]
        rfl

/-- A request for a script that cannot be read leaves the totals alone, and one for a test on which
the interpreter does not start adds the declarations of the test.  After any number of requests, the
totals have grown by one for each outcome, in its bucket, and by the declarations of all accepted
scripts, whether the interpreter started or not. -/
theorem totals_after_requests (s : Session σ ω) :
    (∀ settings world script f s₁, runFile settings world script s = .error f s₁ →
      (∃ cause, world.read s.world script = .error cause ∧ f = .reading ⟨script, cause⟩ ∧
          s₁.tally = s.tally) ∨
        ∃ bytes e cause after, world.read s.world script = .ok bytes ∧
          Script.ofBytes bytes = .accepted e ∧
          world.run ⟨settings.interpreter, script⟩ s.world = .error cause after ∧
          f = .launch ⟨settings.interpreter, cause⟩ ∧
          s₁.tally = { s.tally with expectations := s.tally.expectations + e.markers }) ∧
    ∀ requests, ∃ attempts : List (Request ω × Attempt),
      attempts.map Prod.fst = requests ∧
      Along (fun w attempt w' => Attempted attempt.1 w attempt.2 w') s.world attempts
        (askAll requests s).2.world ∧
      (askAll requests s).1 = attempts.map (fun attempt => attempt.2.result) ∧
      (askAll requests s).2.tally =
        let outcomes := attempts.filterMap fun attempt => attempt.2.outcome?
        { passed := s.tally.passed + outcomes.countP Outcome.isPassed
          failed := s.tally.failed + outcomes.countP Outcome.isFailed
          skipped := s.tally.skipped + outcomes.countP Outcome.isSkipped
          invalid := s.tally.invalid + outcomes.countP Outcome.isInvalid
          expectations := s.tally.expectations +
            (attempts.map fun attempt => attempt.2.markers).sum } := by
  constructor
  · intro settings world script f s₁ hrun
    rcases runFile_eq_error hrun with ⟨cause, hread, hf, htally, -⟩ |
      ⟨bytes, e, cause, after, hread, haccepted, hstart, hf, htally, -⟩
    · exact .inl ⟨cause, hread, hf, htally⟩
    · exact .inr ⟨bytes, e, cause, after, hread, haccepted, hstart, hf, htally⟩
  · intro requests
    obtain ⟨attempts, hrequests, halong, hresults, htotals⟩ := exists_attempts requests s
    refine ⟨attempts, hrequests, halong, hresults, ?_⟩
    rw [htotals, Attempt.foldl_count, List.filterMap_map, List.map_map]
    rfl

/-- A world with the test `a`, on which an interpreter starts only once. -/
def fragileWorld : World Nat where
  scripts := fun _ _ => .ok ["a".toList]
  read := fun _ script =>
    if script = "a".toList then .ok (Text.toUtf8 "// expect: 1".toList) else .error .notFound
  run := fun _ runs =>
    if runs = 0 then .ok { stdout := "1\n".toList } 1 else .error "no room".toList runs

/-- The totals in `fragileWorld` when the interpreter has started once. -/
def fragileSession : Session Unit Nat where
  tally := { passed := 1, expectations := 1 }
  reporter := ()
  world := 1

theorem runFile_fragile :
    ∃ s, runFile smallSettings fragileWorld "a".toList fragileSession =
        .error (.launch ⟨"qi".toList, "no room".toList⟩) s ∧
      s.tally = { passed := 1, expectations := 2 } :=
  ⟨_, rfl, rfl⟩

theorem totals_after_requests_fragile :
    ∃ s, runFile smallSettings fragileWorld "a".toList fragileSession =
        .error (.launch ⟨"qi".toList, "no room".toList⟩) s ∧
      s.tally = { passed := 1, expectations := 2 } := by
  have hone : Script.ofBytes (Text.toUtf8 "// expect: 1".toList) =
      .accepted { output := [⟨1, ['1']⟩], markers := 1 } := by decide +kernel
  obtain ⟨s, hrun, -⟩ := runFile_fragile
  rcases (totals_after_requests fragileSession).1 _ _ _ _ _ hrun with ⟨_, _, ⟨⟩, _⟩ |
    ⟨bytes, e, _, _, hread, haccepted, _, _, htally⟩
  obtain rfl : _ = bytes := Except.ok.inj hread
  rw [hone] at haccepted
  cases haccepted
  exact ⟨s, hrun, htally⟩

/-- The totals can change although the request fails. -/
theorem not_forall_tally_eq_of_error :
    ¬ ∀ (settings : Settings) (world : World Nat) (script : Path) (f : Failure)
        (s s₁ : Session Unit Nat),
      runFile settings world script s = .error f s₁ → s₁.tally = s.tally := by
  intro hall
  obtain ⟨s, hrun, htally⟩ := runFile_fragile
  have hkept := hall _ _ _ _ _ _ hrun
  rw [htally] at hkept
  exact absurd hkept (by decide)

end Conformance.Suite
