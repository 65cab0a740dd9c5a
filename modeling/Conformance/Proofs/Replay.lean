import Conformance.Proofs.Trace

/-!
What a suite does up to the first failure.  A run is compared with the one in which nothing fails:
both do the same, act by act, until one act fails, and nothing is done after that.
-/

namespace Conformance.Suite

variable {σ σ' ω α β : Type}

structure Setup (σ ω : Type) where
  world : World ω
  reporter : Reporter σ

/-- An act that succeeds, with the states of the reporter and of the world before and after it. -/
inductive Act.Performed (setup : Setup σ ω) : σ × ω → Act → σ × ω → Prop
  | opened {state : σ} {w : ω} {script : Path} {bytes : List UInt8} :
      setup.world.read w script = .ok bytes →
      Performed setup (state, w) (.opened script) (state, w)
  | called {state : σ} {w after : ω} {call : Call} {r : Run} :
      setup.world.run call w = .ok r after →
      Performed setup (state, w) (.called call) (state, after)
  | reported {state next : σ} {w : ω} {event : Event} :
      setup.reporter event state = .ok () next →
      Performed setup (state, w) (.reported event) (next, w)

/-- An act that fails, with the failure that ends the run. -/
inductive Act.Failed (setup : Setup σ ω) : σ × ω → Act → Failure → σ × ω → Prop
  | opened {state : σ} {w : ω} {script : Path} {cause : FileError} :
      setup.world.read w script = .error cause →
      Failed setup (state, w) (.opened script) (.reading ⟨script, cause⟩) (state, w)
  | called {state : σ} {w after : ω} {call : Call} {cause : Text} :
      setup.world.run call w = .error cause after →
      Failed setup (state, w) (.called call) (.launch ⟨call.interpreter, cause⟩) (state, after)
  | reported {state next : σ} {w : ω} {event : Event} {cause : Text} :
      setup.reporter event state = .error cause next →
      Failed setup (state, w) (.reported event) (.report cause) (next, w)

/-- What the log shows of an act that fails: scripts that are opened and calls that are made, but
no event that the reporter did not handle. -/
def Act.attempt : Act → List Act
  | .reported _ => []
  | act => [act]

namespace Act

variable {setup : Setup σ ω}

theorem Performed.unique {p q q' : σ × ω} {act : Act} (h : Performed setup p act q)
    (h' : Performed setup p act q') : q = q' := by
  cases h with
  | opened hread => cases h'; rfl
  | called hrun =>
      cases h' with
      | called hrun' =>
          rw [hrun] at hrun'
          cases hrun'
          rfl
  | reported hreport =>
      cases h' with
      | reported hreport' =>
          rw [hreport] at hreport'
          cases hreport'
          rfl

theorem Failed.not_performed {p q q' : σ × ω} {act : Act} {f : Failure}
    (h : Failed setup p act f q) : ¬ Performed setup p act q' := by
  intro h'
  cases h with
  | opened hread =>
      cases h' with
      | opened hread' => simp [hread] at hread'
  | called hrun =>
      cases h' with
      | called hrun' => simp [hrun] at hrun'
  | reported hreport =>
      cases h' with
      | reported hreport' => simp [hreport] at hreport'

theorem Failed.unique {p q q' : σ × ω} {act : Act} {f f' : Failure}
    (h : Failed setup p act f q) (h' : Failed setup p act f' q') : f = f' ∧ q = q' := by
  cases h with
  | opened hread =>
      cases h' with
      | opened hread' =>
          rw [hread] at hread'
          cases hread'
          exact ⟨rfl, rfl⟩
  | called hrun =>
      cases h' with
      | called hrun' =>
          rw [hrun] at hrun'
          cases hrun'
          exact ⟨rfl, rfl⟩
  | reported hreport =>
      cases h' with
      | reported hreport' =>
          rw [hreport] at hreport'
          cases hreport'
          exact ⟨rfl, rfl⟩

end Act

/-- A row of acts fails first in one place only. -/
theorem first_failure_unique {setup : Setup σ ω} {p mid mid' last last' : σ × ω}
    {done done' rest rest' : List Act} {act act' : Act} {f f' : Failure}
    (hsame : done ++ act :: rest = done' ++ act' :: rest')
    (hdone : Along (Act.Performed setup) p done mid) (hact : act.Failed setup mid f last)
    (hdone' : Along (Act.Performed setup) p done' mid') (hact' : act'.Failed setup mid' f' last') :
    done = done' ∧ act = act' ∧ f = f' ∧ last = last' := by
  induction hdone generalizing done' with
  | nil =>
      cases hdone' with
      | nil =>
          obtain ⟨rfl, -⟩ := List.cons.inj hsame
          obtain ⟨rfl, rfl⟩ := hact.unique hact'
          exact ⟨rfl, rfl, rfl, rfl⟩
      | cons hstep _ =>
          obtain ⟨rfl, -⟩ := List.cons.inj hsame
          exact absurd hstep hact.not_performed
  | cons hstep _ ih =>
      cases hdone' with
      | nil =>
          obtain ⟨rfl, -⟩ := List.cons.inj hsame
          exact absurd hstep hact'.not_performed
      | cons hstep' hrest' =>
          obtain ⟨rfl, htail⟩ := List.cons.inj hsame
          obtain rfl := hstep.unique hstep'
          obtain ⟨rfl, hrest⟩ := ih htail hact hrest'
          exact ⟨rfl, hrest⟩

/-- No act of a row that succeeds fails. -/
theorem not_failed_of_along {setup : Setup σ ω} {p mid last last' : σ × ω}
    {done rest : List Act} {act : Act} {f : Failure}
    (hall : Along (Act.Performed setup) p (done ++ act :: rest) last)
    (hdone : Along (Act.Performed setup) p done mid) : ¬ act.Failed setup mid f last' := by
  intro hact
  induction hdone with
  | nil =>
      obtain ⟨_, hstep, -⟩ := along_cons_iff.1 hall
      exact hact.not_performed hstep
  | cons hstep _ ih =>
      obtain ⟨_, hstep', hall⟩ := along_cons_iff.1 hall
      obtain rfl := hstep.unique hstep'
      exact ih hall hact

def Session.states (s : Session σ ω) : σ × ω :=
  (s.reporter, s.world)

/-- The state in which a step ends, whether it fails or not. -/
def ending : EStateM.Result Failure (Session σ ω) α → Session σ ω
  | .ok _ s => s
  | .error _ s => s

/-- Two sessions that have done the same, with related states of their reporters. -/
structure Session.Like (R : σ → σ' → Prop) (s : Session σ ω) (s' : Session σ' ω) : Prop where
  tally : s.tally = s'.tally
  log : s.log = s'.log
  reporter : R s.reporter s'.reporter
  world : s.world = s'.world

/-- A setup answers as another one does, or fails where the other one does not. -/
structure Follows (R : σ → σ' → Prop) (setup : Setup σ ω) (setup' : Setup σ' ω) : Prop where
  read : ∀ w script, setup.world.read w script = setup'.world.read w script ∨
    ∃ cause bytes, setup.world.read w script = .error cause ∧
      setup'.world.read w script = .ok bytes
  run : ∀ call w, setup.world.run call w = setup'.world.run call w ∨
    ∃ cause after r after', setup.world.run call w = .error cause after ∧
      setup'.world.run call w = .ok r after'
  report : ∀ event state state', R state state' →
    ∃ next', setup'.reporter event state' = .ok () next' ∧
    ((∃ next, setup.reporter event state = .ok () next ∧ R next next') ∨
      ∃ cause next, setup.reporter event state = .error cause next)

/-- How a step ends in a setup, beside how it ends in one that this setup follows: both succeed,
both fail at the same act, or only the first one fails, at an act that the second one has done. -/
inductive Compares (R : σ → σ' → Prop) (setup : Setup σ ω) (setup' : Setup σ' ω)
    (s : Session σ ω) : EStateM.Result Failure (Session σ ω) α →
      EStateM.Result Failure (Session σ' ω) α → Prop
  | ok {acts : List Act} {a : α} {s₁ : Session σ ω} {s₁' : Session σ' ω} :
      s₁.log = s.log ++ acts → Along (Act.Performed setup) s.states acts s₁.states →
      s₁.Like R s₁' → Compares R setup setup' s (.ok a s₁) (.ok a s₁')
  | error {done : List Act} {act : Act} {mid : σ × ω} {f : Failure} {s₁ : Session σ ω}
      {s₁' : Session σ' ω} :
      s₁.log = s.log ++ done ++ act.attempt → Along (Act.Performed setup) s.states done mid →
      act.Failed setup mid f s₁.states →
      s₁.Like R s₁' → Compares R setup setup' s (.error f s₁) (.error f s₁')
  | breaks {done rest : List Act} {act : Act} {mid : σ × ω} {state' : σ'} {last' : σ' × ω}
      {f : Failure} {s₁ : Session σ ω} {r' : EStateM.Result Failure (Session σ' ω) α} :
      s₁.log = s.log ++ done ++ act.attempt → Along (Act.Performed setup) s.states done mid →
      act.Failed setup mid f s₁.states →
      (ending r').log = s.log ++ done ++ act :: rest →
      R mid.1 state' → act.Performed setup' (state', mid.2) last' →
      Compares R setup setup' s (.error f s₁) r'

/-- A step does the same in both setups until the first one fails, and its log only grows. -/
structure Tracks (R : σ → σ' → Prop) (setup : Setup σ ω) (setup' : Setup σ' ω)
    (m : Step σ ω α) (m' : Step σ' ω α) : Prop where
  grows : ∀ s', s'.log <+: (ending (m' s')).log
  compares : ∀ s s', s.Like R s' → Compares R setup setup' s (m s) (m' s')

section Tracks

variable {R : σ → σ' → Prop} {setup : Setup σ ω} {setup' : Setup σ' ω}

/-- A comparison that goes on after acts that succeeded in both setups. -/
theorem Compares.after {acts : List Act} {s s₁ : Session σ ω}
    {r : EStateM.Result Failure (Session σ ω) α} {r' : EStateM.Result Failure (Session σ' ω) α}
    (hlog : s₁.log = s.log ++ acts) (hacts : Along (Act.Performed setup) s.states acts s₁.states)
    (h : Compares R setup setup' s₁ r r') : Compares R setup setup' s r r' := by
  cases h with
  | ok hlog' hacts' hlike =>
      exact .ok (by rw [hlog', hlog, List.append_assoc])
        (along_append_iff.2 ⟨_, hacts, hacts'⟩) hlike
  | error hlog' hdone hact hlike =>
      exact .error (by rw [hlog', hlog, List.append_assoc _ acts])
        (along_append_iff.2 ⟨_, hacts, hdone⟩) hact hlike
  | breaks hlog' hdone hact hrest hmid hperformed =>
      exact .breaks (by rw [hlog', hlog, List.append_assoc _ acts])
        (along_append_iff.2 ⟨_, hacts, hdone⟩) hact
        (by rw [hrest, hlog, List.append_assoc _ acts]) hmid hperformed

/-- A comparison that breaks at the first act. -/
theorem Compares.breaks_here {act : Act} {state' : σ'} {last' : σ' × ω} {f : Failure}
    {s s₁ : Session σ ω} {r' : EStateM.Result Failure (Session σ' ω) α}
    (hlog : s₁.log = s.log ++ act.attempt) (hact : act.Failed setup s.states f s₁.states)
    (hrest : (ending r').log = s.log ++ [act]) (hR : R s.reporter state')
    (hperformed : act.Performed setup' (state', s.world) last') :
    Compares R setup setup' s (.error f s₁) r' :=
  .breaks (by simpa using hlog) .nil hact (by simpa using hrest) hR hperformed

theorem Tracks.bind {m : Step σ ω α} {m' : Step σ' ω α} {k : α → Step σ ω β}
    {k' : α → Step σ' ω β} (hm : Tracks R setup setup' m m')
    (hk : ∀ a, Tracks R setup setup' (k a) (k' a)) :
    Tracks R setup setup' (m >>= k) (m' >>= k') where
  grows s' := by
    have hgrows := hm.grows s'
    change s'.log <+: (ending (EStateM.bind m' k' s')).log
    unfold EStateM.bind
    cases hr : m' s' with
    | ok a s₁' =>
        rw [hr] at hgrows
        exact hgrows.trans ((hk a).grows s₁')
    | error f s₁' =>
        rw [hr] at hgrows
        exact hgrows
  compares s s' hlike := by
    have hcompares := hm.compares s s' hlike
    change Compares R setup setup' s (EStateM.bind m k s) (EStateM.bind m' k' s')
    unfold EStateM.bind
    generalize m s = r at hcompares
    generalize m' s' = r' at hcompares
    cases hcompares with
    | ok hlog hacts hlike₁ => exact ((hk _).compares _ _ hlike₁).after hlog hacts
    | error hlog hdone hact hlike₁ => exact .error hlog hdone hact hlike₁
    | @breaks done rest act _ _ _ _ _ _ hlog hdone hact hrest hmid hperformed =>
        cases r' with
        | ok a s₁' =>
            -- What the second setup does after the act only adds to its log.
            obtain ⟨more, hmore⟩ := (hk a).grows s₁'
            have hlonger : (ending (k' a s₁')).log = s.log ++ done ++ act :: (rest ++ more) := by
              rw [← hmore, show s₁'.log = s.log ++ done ++ act :: rest from hrest,
                List.append_assoc, List.cons_append]
            exact .breaks hlog hdone hact hlonger hmid hperformed
        | error f s₁' => exact .breaks hlog hdone hact hrest hmid hperformed

/-- A step that touches nothing but the totals, and touches them alike. -/
theorem Tracks.quiet (a : Tally → α) (change : Tally → Tally) :
    Tracks R setup setup' (fun s => .ok (a s.tally) { s with tally := change s.tally })
      (fun s => .ok (a s.tally) { s with tally := change s.tally }) where
  grows _ := List.prefix_rfl
  compares s s' hlike := by
    rw [← hlike.tally]
    exact .ok (by simp) .nil ⟨rfl, hlike.log, hlike.reporter, hlike.world⟩

theorem Tracks.pure (a : α) :
    Tracks R setup setup' (Pure.pure a : Step σ ω α) (Pure.pure a : Step σ' ω α) :=
  .quiet (fun _ => a) id

theorem Tracks.tally : Tracks R setup setup' (tally : Step σ ω Tally) (tally : Step σ' ω Tally) :=
  .quiet id id

theorem Tracks.expect (e : Expectation) :
    Tracks R setup setup' (expect e : Step σ ω Unit) (expect e : Step σ' ω Unit) :=
  .quiet (fun _ => ()) (·.expect e)

theorem Tracks.record (o : Outcome) :
    Tracks R setup setup' (record o : Step σ ω Outcome) (record o : Step σ' ω Outcome) :=
  .quiet (fun _ => o) (·.record o)

theorem Tracks.notify (h : Follows R setup setup') (event : Event) :
    Tracks R setup setup' (notify setup.reporter event) (notify setup'.reporter event) where
  grows s' := by
    unfold Suite.notify
    cases setup'.reporter event s'.reporter with
    | ok _ state => exact List.prefix_append ..
    | error cause state => exact List.prefix_rfl
  compares s s' hlike := by
    obtain ⟨next', hnext', hnext⟩ := h.report event s.reporter s'.reporter hlike.reporter
    rcases hnext with ⟨next, hnext, hR⟩ | ⟨cause, next, hnext⟩
    · simp only [Suite.notify, hnext, hnext']
      exact .ok rfl (.cons (.reported hnext) .nil)
        ⟨hlike.tally, by simp [Session.did, hlike.log], hR, hlike.world⟩
    · simp only [Suite.notify, hnext, hnext']
      exact .breaks_here (by simp [Act.attempt]) (.reported hnext)
        (by simp [ending, Session.did, hlike.log]) hlike.reporter (.reported hnext')

theorem Tracks.load (h : Follows R setup setup') (script : Path) :
    Tracks R setup setup' (load setup.world script) (load setup'.world script) where
  grows s' := by
    unfold Suite.load
    cases Script.load (setup'.world.read s'.world) script <;> exact List.prefix_append ..
  compares s s' hlike := by
    have hlike' : (s.did (.opened script)).Like R (s'.did (.opened script)) :=
      ⟨hlike.tally, by simp [Session.did, hlike.log], hlike.reporter, hlike.world⟩
    simp only [Suite.load, Script.load, ← hlike.world]
    rcases h.read s.world script with hsame | ⟨cause, bytes, hfails, hreads⟩
    · rw [← hsame]
      cases hread : setup.world.read s.world script with
      | ok bytes => exact .ok rfl (.cons (.opened hread) .nil) hlike'
      | error cause => exact .error (by simp [Act.attempt, Session.did]) .nil (.opened hread) hlike'
    · rw [hfails, hreads]
      exact .breaks_here rfl (.opened hfails) (by simp [ending, Session.did, hlike.log])
        hlike.reporter (.opened hreads)

theorem Tracks.execute (h : Follows R setup setup') (call : Call) :
    Tracks R setup setup' (execute setup.world call) (execute setup'.world call) where
  grows s' := by
    unfold Suite.execute
    cases setup'.world.run call s'.world <;> exact List.prefix_append ..
  compares s s' hlike := by
    simp only [Suite.execute, ← hlike.world]
    rcases h.run call s.world with hsame | ⟨cause, after, r, after', hfails, hruns⟩
    · rw [← hsame]
      cases hrun : setup.world.run call s.world with
      | ok r after =>
          exact .ok rfl (.cons (.called hrun) .nil)
            ⟨hlike.tally, by simp [Session.did, hlike.log], hlike.reporter, rfl⟩
      | error cause after =>
          exact .error (by simp [Act.attempt, Session.did]) .nil (.called hrun)
            ⟨hlike.tally, by simp [Session.did, hlike.log], hlike.reporter, rfl⟩
    · rw [hfails, hruns]
      exact .breaks_here rfl (.called hfails) (by simp [ending, Session.did, hlike.log])
        hlike.reporter (.called hruns)

theorem Tracks.runFile (h : Follows R setup setup') (settings : Settings) (script : Path) :
    Tracks R setup setup' (runFile settings setup.world script)
      (runFile settings setup'.world script) := by
  refine (Tracks.load h script).bind fun reading => ?_
  cases reading with
  | excluded => exact .record .skipped
  | contradictory c => exact .record (.invalid c)
  | accepted e =>
      refine (Tracks.expect e).bind fun _ => ?_
      exact (Tracks.execute h _).bind fun r => .record _

theorem Tracks.runFiles (h : Follows R setup setup') (settings : Settings)
    (scripts : List Path) :
    Tracks R setup setup' (runFiles settings setup.world setup.reporter scripts)
      (runFiles settings setup'.world setup'.reporter scripts) := by
  induction scripts with
  | nil => exact .pure ()
  | cons script rest ih =>
      refine Tracks.tally.bind fun before => ?_
      refine (Tracks.notify h _).bind fun _ => ?_
      refine (Tracks.runFile h settings script).bind fun outcome => ?_
      refine Tracks.tally.bind fun after => ?_
      exact (Tracks.notify h _).bind fun _ => ih

/-- What a suite does with the scripts that it has found. -/
def goThrough (settings : Settings) (setup : Setup σ ω) (elapsed : Duration)
    (scripts : List Path) : Step σ ω Tally := do
  Suite.notify setup.reporter (.suiteStart scripts.length)
  Suite.runFiles settings setup.world setup.reporter scripts
  Suite.notify setup.reporter (.suiteComplete (← Suite.tally) elapsed)
  Suite.tally

theorem Tracks.goThrough (h : Follows R setup setup') (settings : Settings) (elapsed : Duration)
    (scripts : List Path) :
    Tracks R setup setup' (goThrough settings setup elapsed scripts)
      (goThrough settings setup' elapsed scripts) := by
  refine (Tracks.notify h _).bind fun _ => ?_
  refine (Tracks.runFiles h settings scripts).bind fun _ => ?_
  refine Tracks.tally.bind fun t => ?_
  exact (Tracks.notify h _).bind fun _ => .tally

end Tracks

section Run

variable {settings : Settings} {setup setup' : Setup σ ω} {state : σ} {start : ω}
  {elapsed : Duration}

abbrev Setup.run (setup : Setup σ ω) (settings : Settings) (state : σ) (start : ω)
    (elapsed : Duration) : EStateM.Result Failure (Session σ ω) Tally :=
  Suite.run settings setup.world setup.reporter state start elapsed

theorem run_of_found {scripts : List Path}
    (h : setup.world.scripts start settings.root = .ok scripts) :
    setup.run settings state start elapsed =
      goThrough settings setup elapsed scripts { reporter := state, world := start } := by
  change EStateM.bind (findScripts settings setup.world) _ _ = _
  simp only [EStateM.bind, findScripts, h]
  rfl

theorem run_of_not_found {e : DiscoveryError}
    (h : setup.world.scripts start settings.root = .error e) :
    setup.run settings state start elapsed =
      .error (.discovery e) { reporter := state, world := start } := by
  change EStateM.bind (findScripts settings setup.world) _ _ = _
  simp only [EStateM.bind, findScripts, h]

/-- Runs over the same scripts do the same until the first one fails. -/
theorem run_compares {R : σ → σ' → Prop} {setup' : Setup σ' ω} {state' : σ'} {scripts : List Path}
    (h : Follows R setup setup') (elapsed : Duration) (hstate : R state state')
    (hscripts : setup.world.scripts start settings.root = .ok scripts)
    (hscripts' : setup'.world.scripts start settings.root = .ok scripts) :
    Compares R setup setup' { reporter := state, world := start }
      (setup.run settings state start elapsed) (setup'.run settings state' start elapsed) := by
  rw [run_of_found hscripts, run_of_found hscripts']
  exact (Tracks.goThrough h settings elapsed scripts).compares _ _ ⟨rfl, rfl, hstate, rfl⟩

/-- A setup in which nothing fails, and which answers as another one does wherever that one does
not fail. -/
structure Mends (setup setup' : Setup σ ω) : Prop where
  scripts : ∀ w root, ∃ found, setup'.world.scripts w root = .ok found ∧
    (setup.world.scripts w root = .ok found ∨ ∃ e, setup.world.scripts w root = .error e)
  read : ∀ w script, ∃ bytes, setup'.world.read w script = .ok bytes ∧
    (setup.world.read w script = .ok bytes ∨ ∃ cause, setup.world.read w script = .error cause)
  run : ∀ call w, ∃ r after, setup'.world.run call w = .ok r after ∧
    (setup.world.run call w = .ok r after ∨
      ∃ cause after, setup.world.run call w = .error cause after)
  report : ∀ event state, ∃ next, setup'.reporter event state = .ok () next ∧
    (setup.reporter event state = .ok () next ∨
      ∃ cause next, setup.reporter event state = .error cause next)

theorem Mends.follows (h : Mends setup setup') : Follows Eq setup setup' where
  read w script := by
    obtain ⟨bytes, hreads, hsame | ⟨cause, hfails⟩⟩ := h.read w script
    · exact .inl (hsame.trans hreads.symm)
    · exact .inr ⟨cause, bytes, hfails, hreads⟩
  run call w := by
    obtain ⟨r, after, hruns, hsame | ⟨cause, after', hfails⟩⟩ := h.run call w
    · exact .inl (hsame.trans hruns.symm)
    · exact .inr ⟨cause, after', r, after, hfails, hruns⟩
  report event state state' := by
    rintro rfl
    obtain ⟨next, hnext, hsame | hfails⟩ := h.report event state
    · exact ⟨next, hnext, .inl ⟨next, hsame, rfl⟩⟩
    · exact ⟨next, hnext, .inr hfails⟩

theorem Mends.not_failed (h : Mends setup setup') {p q : σ × ω} {act : Act} {f : Failure} :
    ¬ act.Failed setup' p f q := by
  rintro (hfails | hfails | hfails)
  · obtain ⟨bytes, hreads, -⟩ := h.read _ _
    rw [hreads] at hfails
    cases hfails
  · obtain ⟨r, after, hruns, -⟩ := h.run _ _
    rw [hruns] at hfails
    cases hfails
  · obtain ⟨next, hnext, -⟩ := h.report _ _
    rw [hnext] at hfails
    cases hfails

theorem Mends.self (h : Mends setup setup') : Mends setup' setup' where
  scripts w root := (h.scripts w root).imp fun _ hfound => ⟨hfound.1, .inl hfound.1⟩
  read w script := (h.read w script).imp fun _ hread => ⟨hread.1, .inl hread.1⟩
  run call w := (h.run call w).imp fun _ => Exists.imp fun _ hrun => ⟨hrun.1, .inl hrun.1⟩
  report event state := (h.report event state).imp fun _ hnext => ⟨hnext.1, .inl hnext.1⟩

/-- A setup that finds nothing, reads nothing, runs nothing and keeps still where another one
fails. -/
def Setup.mended (setup : Setup σ ω) : Setup σ ω where
  world := {
    scripts := fun w root => .ok ((setup.world.scripts w root).toOption.getD [])
    read := fun w script => .ok ((setup.world.read w script).toOption.getD [])
    run := fun call w =>
      match setup.world.run call w with
      | .ok r after => .ok r after
      | .error _ after => .ok {} after }
  reporter := fun event state =>
    match setup.reporter event state with
    | .ok _ next => .ok () next
    | .error _ next => .ok () next

theorem mends_mended (setup : Setup σ ω) : Mends setup setup.mended where
  scripts w root := by
    cases hfound : setup.world.scripts w root <;> simp [Setup.mended, hfound, Except.toOption]
  read w script := by
    cases hread : setup.world.read w script <;> simp [Setup.mended, hread, Except.toOption]
  run call w := by
    cases hrun : setup.world.run call w <;> simp [Setup.mended, hrun]
  report event state := by
    cases hreport : setup.reporter event state <;> simp [Setup.mended, hreport]

theorem Session.Like.eq {s s' : Session σ ω} (h : s.Like Eq s') : s = s' := by
  obtain ⟨htally, hlog, hreporter, hworld⟩ := h
  cases s
  cases s'
  simp_all

/-- A run in a setup in which nothing fails gives totals. -/
theorem Mends.exists_run_eq_ok (h : Mends setup setup') (settings : Settings) (state : σ)
    (start : ω) (elapsed : Duration) :
    ∃ t s, setup'.run settings state start elapsed = .ok t s := by
  obtain ⟨scripts, hscripts, -⟩ := h.scripts start settings.root
  have hcompares := run_compares h.self.follows elapsed (Eq.refl state) hscripts hscripts
  generalize setup'.run settings state start elapsed = r at hcompares
  cases hcompares with
  | ok => exact ⟨_, _, rfl⟩
  | error _ _ hact _ => exact absurd hact h.not_failed
  | breaks _ _ hact _ _ _ => exact absurd hact h.not_failed

/-- How a run ends in any setup whatsoever.  Unless its scripts are not found, it does the acts of
the run in which failures are mended, either all of them or those before the first one that
fails. -/
theorem run_follows_mended (setup : Setup σ ω) (settings : Settings) (state : σ) (start : ω)
    (elapsed : Duration) :
    ∃ t s, setup.mended.run settings state start elapsed = .ok t s ∧
      ((∃ e, setup.run settings state start elapsed =
          .error (.discovery e) { reporter := state, world := start }) ∨
        (setup.run settings state start elapsed = .ok t s ∧
          Along (Act.Performed setup) (state, start) s.log s.states) ∨
        ∃ done act rest mid f s₁, s.log = done ++ act :: rest ∧
          Along (Act.Performed setup) (state, start) done mid ∧
          act.Failed setup mid f s₁.states ∧
          setup.run settings state start elapsed = .error f s₁ ∧ s₁.log = done ++ act.attempt) := by
  have hmends := mends_mended setup
  obtain ⟨t, s, hrun⟩ := hmends.exists_run_eq_ok settings state start elapsed
  refine ⟨t, s, hrun, ?_⟩
  cases hscripts : setup.world.scripts start settings.root with
  | error e => exact .inl ⟨e, run_of_not_found hscripts⟩
  | ok scripts =>
      have hscripts' : setup.mended.world.scripts start settings.root = .ok scripts := by
        simp [Setup.mended, hscripts, Except.toOption]
      have hcompares := run_compares hmends.follows elapsed (Eq.refl state) hscripts hscripts'
      rw [hrun] at hcompares
      generalize setup.run settings state start elapsed = r at hcompares ⊢
      refine .inr ?_
      cases hcompares with
      | ok hlog hacts hlike =>
          obtain rfl := hlike.eq
          rw [List.nil_append] at hlog
          rw [← hlog] at hacts
          exact .inl ⟨rfl, hacts⟩
      | breaks hlog hdone hact hrest _ _ =>
          exact .inr ⟨_, _, _, _, _, _, hrest, hdone, hact, rfl, hlog⟩

/-- The first failure ends a run, wherever it falls.  If nothing failed, the suite would do the
acts of a log; with a failure it does those before the one that fails, and the failing one, and
then nothing: the states that this one leaves behind are the last ones. -/
theorem run_stops_at_first_failure (h : Mends setup setup') (settings : Settings) (state : σ)
    (start : ω) (elapsed : Duration) :
    ∃ t s, setup'.run settings state start elapsed = .ok t s ∧
      (∀ e, setup.world.scripts start settings.root = .error e →
        setup.run settings state start elapsed =
          .error (.discovery e) { reporter := state, world := start }) ∧
      ∀ scripts, setup.world.scripts start settings.root = .ok scripts →
        (setup.run settings state start elapsed = .ok t s ↔
          ∃ last, Along (Act.Performed setup) (state, start) s.log last) ∧
        ∀ done act rest mid f last, s.log = done ++ act :: rest →
          Along (Act.Performed setup) (state, start) done mid → act.Failed setup mid f last →
          ∃ s₁, setup.run settings state start elapsed = .error f s₁ ∧
            s₁.log = done ++ act.attempt ∧ s₁.states = last := by
  obtain ⟨t, s, hrun⟩ := h.exists_run_eq_ok settings state start elapsed
  refine ⟨t, s, hrun, fun e he => run_of_not_found he, fun scripts hscripts => ?_⟩
  have hscripts' : setup'.world.scripts start settings.root = .ok scripts := by
    obtain ⟨found, hfound, hsame | ⟨e, hfails⟩⟩ := h.scripts start settings.root
    · rw [hfound, ← hsame, hscripts]
    · rw [hscripts] at hfails
      cases hfails
  have hcompares := run_compares h.follows elapsed (Eq.refl state) hscripts hscripts'
  rw [hrun] at hcompares
  generalize setup.run settings state start elapsed = r at hcompares ⊢
  cases hcompares with
  | ok hlog hacts hlike =>
      obtain rfl := hlike.eq
      rw [List.nil_append] at hlog
      rw [← hlog] at hacts
      refine ⟨⟨fun _ => ⟨_, hacts⟩, fun _ => rfl⟩,
        fun done act rest mid f last hsplit hdone hact => ?_⟩
      rw [hsplit] at hacts
      exact absurd hact (not_failed_of_along hacts hdone)
  | breaks hlog hdone hact hrest _ _ =>
      refine ⟨⟨fun hok => ?_, ?_⟩, fun done' act' rest' mid' f' last' hsplit hdone' hact' => ?_⟩
      · cases hok
      · rintro ⟨last, hall⟩
        rw [show s.log = _ from hrest] at hall
        exact absurd hact (not_failed_of_along hall hdone)
      · have hsame := hsplit.symm.trans hrest
        obtain ⟨rfl, rfl, rfl, rfl⟩ := first_failure_unique hsame hdone' hact' hdone hact
        exact ⟨_, rfl, hlog, rfl⟩

/-- The setup of `smallWorld` with an interpreter that starts only once. -/
def onceSetup : Setup (List Event) Nat where
  world := { smallWorld with
    run := fun call runs =>
      if runs = 0 then smallWorld.run call runs else .error "no room".toList runs }
  reporter := keepEvents

theorem mends_onceSetup : Mends onceSetup ⟨smallWorld, keepEvents⟩ where
  scripts _ _ := ⟨_, rfl, .inl rfl⟩
  read _ _ := ⟨_, rfl, .inl rfl⟩
  run call runs := by
    refine ⟨_, _, rfl, ?_⟩
    simp only [onceSetup]
    split
    · exact .inl rfl
    · exact .inr ⟨_, _, rfl⟩
  report _ _ := ⟨_, rfl, .inl rfl⟩

/-- What is done in `onceSetup` before the interpreter is called a second time. -/
def onceDone : List Act := (trace smallSettings {} smallVisits).take 13

theorem along_onceDone :
    Along (Act.Performed onceSetup) ([], 0) onceDone (onceDone.filterMap Act.event?, 1) :=
  .cons (.reported rfl) <|
    .cons (.reported rfl) <| .cons (.opened rfl) <| .cons (.reported rfl) <|
    .cons (.reported rfl) <| .cons (.opened rfl) <| .cons (.called rfl) <| .cons (.reported rfl) <|
    .cons (.reported rfl) <| .cons (.opened rfl) <| .cons (.reported rfl) <|
    .cons (.reported rfl) <| .cons (.opened rfl) .nil

theorem run_stops_at_first_failure_once :
    Mends onceSetup ⟨smallWorld, keepEvents⟩ ∧
      Along (Act.Performed onceSetup) ([], 0) onceDone (onceDone.filterMap Act.event?, 1) ∧
      ∃ s, onceSetup.run smallSettings [] 0 {} =
          .error (.launch ⟨"qi".toList, "no room".toList⟩) s ∧
        s.log = onceDone ++ [.called ⟨"qi".toList, "a".toList⟩] ∧
        s.states = (onceDone.filterMap Act.event?, 1) := by
  obtain ⟨t, s, hrun, -, hlaw⟩ :=
    run_stops_at_first_failure mends_onceSetup smallSettings [] 0 {}
  have hfree := run_eq_ok_iff.2 ⟨_, _, _, unfailing_small, rfl, rfl⟩
  obtain ⟨rfl, rfl⟩ := EStateM.Result.ok.inj (hfree.symm.trans hrun)
  obtain ⟨s₁, hs₁, hlog, hstates⟩ := (hlaw _ rfl).2 onceDone (.called ⟨"qi".toList, "a".toList⟩)
    ((trace smallSettings {} smallVisits).drop 14) _ _ _ rfl along_onceDone (.called rfl)
  exact ⟨mends_onceSetup, along_onceDone, s₁, hs₁, hlog, hstates⟩

end Run

end Conformance.Suite
