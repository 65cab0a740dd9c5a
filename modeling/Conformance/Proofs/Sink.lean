import Conformance.Proofs.Replay
import Conformance.Sink

/-!
Reports into a sink that is full at some point.  Up to there the run is the one that an unlimited
sink would see; the write that goes past the limit ends it, and the sink holds the first bytes of
what the unlimited one would hold.
-/

namespace Conformance

namespace Sink

def limited (s : Sink) (limit : Nat) : Sink :=
  { s with limit := some limit }

/-- A limited sink that has kept all that an unlimited one holds. -/
structure KeepsUp (limit : Nat) (s s' : Sink) : Prop where
  eq : s = s'.limited limit
  unlimited : s'.limit = none
  fits : s'.bytes.length ≤ limit

@[simp] theorem bytes_limited (s : Sink) (limit : Nat) : (s.limited limit).bytes = s.bytes := rfl

theorem writeBytes_of_unlimited {s : Sink} (h : s.limit = none) (bytes : List UInt8) :
    writeBytes bytes s = .ok () (s.keep bytes) := by
  simp [writeBytes, fitting, h]

/-- A write is kept by both sinks, or goes past the limit and leaves its first bytes behind. -/
theorem KeepsUp.writeBytes {limit : Nat} {s s' : Sink} (h : KeepsUp limit s s')
    (bytes : List UInt8) :
    (Sink.writeBytes bytes s = .ok () (s.keep bytes) ∧
        KeepsUp limit (s.keep bytes) (s'.keep bytes)) ∨
      ∃ next, Sink.writeBytes bytes s = .error full next ∧
        limit < (s'.keep bytes).bytes.length ∧
        next.bytes = (s'.keep bytes).bytes.take limit := by
  obtain ⟨rfl, hunlimited, hfits⟩ := h
  have hfitting : (s'.limited limit).fitting bytes = bytes.take (limit - s'.bytes.length) := rfl
  by_cases hroom : bytes.length ≤ limit - s'.bytes.length
  · left
    rw [List.take_of_length_le hroom] at hfitting
    refine ⟨by simp [Sink.writeBytes, hfitting], rfl, hunlimited, ?_⟩
    rw [bytes_keep, List.length_append]
    omega
  · right
    have hshort : (bytes.take (limit - s'.bytes.length)).length ≠ bytes.length := by
      rw [List.length_take]
      omega
    refine ⟨(s'.limited limit).keep (bytes.take (limit - s'.bytes.length)), ?_, ?_, ?_⟩
    · simp only [Sink.writeBytes, hfitting]
      rw [if_neg hshort]
    · rw [bytes_keep, List.length_append]
      omega
    · rw [bytes_keep, bytes_keep, bytes_limited, List.take_append, List.take_of_length_le hfits]

theorem writeBytes_eq_ok {s next : Sink} {u : Unit} {bytes : List UInt8}
    (h : Sink.writeBytes bytes s = .ok u next) : next = s.keep bytes := by
  have hfitting : s.fitting bytes = bytes ∨ (s.fitting bytes).length ≠ bytes.length := by
    unfold fitting
    cases s.limit with
    | none => exact .inl rfl
    | some limit =>
        by_cases hroom : bytes.length ≤ limit - s.bytes.length
        · exact .inl (List.take_of_length_le hroom)
        · right
          rw [List.length_take]
          omega
  simp only [Sink.writeBytes] at h
  rcases hfitting with hall | hshort
  · rw [hall, if_pos rfl] at h
    cases h
    rfl
  · rw [if_neg hshort] at h
    cases h

end Sink

def Report.bytes (report : Report) (event : Event) : List UInt8 :=
  (report event).flatMap Text.toUtf8

namespace Sink

theorem writeAll_of_unlimited {s : Sink} (h : s.limit = none) (ts : List Text) :
    ∃ next, writeAll ts s = .ok () next ∧ next.limit = none := by
  induction ts generalizing s with
  | nil => exact ⟨s, rfl, h⟩
  | cons t ts ih =>
      obtain ⟨next, hnext, hlimit⟩ := ih (s := s.keep (Text.toUtf8 t)) h
      refine ⟨next, ?_, hlimit⟩
      change EStateM.bind (writeBytes (Text.toUtf8 t)) _ s = _
      simp only [EStateM.bind, writeBytes_of_unlimited h]
      exact hnext

theorem writeAll_eq_ok {s next : Sink} {u : Unit} {ts : List Text}
    (h : Sink.writeAll ts s = .ok u next) :
    next.limit = s.limit ∧ next.bytes = s.bytes ++ ts.flatMap Text.toUtf8 := by
  induction ts generalizing s with
  | nil =>
      cases h
      simp
  | cons t ts ih =>
      change EStateM.bind (Sink.writeBytes (Text.toUtf8 t)) _ s = _ at h
      unfold EStateM.bind at h
      split at h
      next hwrite =>
        obtain ⟨hlimit, hbytes⟩ := ih h
        rw [hlimit, hbytes, writeBytes_eq_ok hwrite, bytes_keep, List.flatMap_cons,
          List.append_assoc]
        exact ⟨rfl, rfl⟩
      next => cases h

/-- All texts are kept by both sinks, or one of them goes past the limit. -/
theorem KeepsUp.writeAll {limit : Nat} {s s' next' : Sink} (h : KeepsUp limit s s')
    {ts : List Text} (hnext' : Sink.writeAll ts s' = .ok () next') :
    (∃ next, Sink.writeAll ts s = .ok () next ∧ KeepsUp limit next next') ∨
      ∃ next, Sink.writeAll ts s = .error full next ∧ limit < next'.bytes.length ∧
        next.bytes = next'.bytes.take limit := by
  induction ts generalizing s s' with
  | nil =>
      cases hnext'
      exact .inl ⟨s, rfl, h⟩
  | cons t ts ih =>
      have hrest : Sink.writeAll ts (s'.keep (Text.toUtf8 t)) = .ok () next' := by
        change EStateM.bind (Sink.writeBytes (Text.toUtf8 t)) _ s' = _ at hnext'
        simpa only [EStateM.bind, writeBytes_of_unlimited h.unlimited] using hnext'
      change (∃ next, EStateM.bind (Sink.writeBytes (Text.toUtf8 t)) _ s = _ ∧ _) ∨
        ∃ next, EStateM.bind (Sink.writeBytes (Text.toUtf8 t)) _ s = _ ∧ _
      rcases h.writeBytes (Text.toUtf8 t) with ⟨hwrite, hkept⟩ | ⟨next, hwrite, hpast, hfirst⟩
      · simp only [EStateM.bind, hwrite]
        exact ih hkept hrest
      · -- What the unlimited sink gets after that does not change its first bytes.
        have hbytes := (writeAll_eq_ok hrest).2
        refine .inr ⟨next, by simp only [EStateM.bind, hwrite], ?_, ?_⟩
        · rw [hbytes, List.length_append]
          omega
        · rw [hbytes, List.take_append_of_le_length (Nat.le_of_lt hpast)]
          exact hfirst

end Sink

namespace Suite

open Sink

variable {ω : Type} {settings : Settings} {report : Report} {world : World ω} {start : ω}
  {elapsed : Duration}

/-- The bytes that a report writes for the events of a log. -/
def written (report : Report) (log : List Act) : List UInt8 :=
  (log.filterMap Act.event?).flatMap report.bytes

theorem written_append (report : Report) (front back : List Act) :
    written report (front ++ back) = written report front ++ written report back := by
  simp [written]

/-- The setup in which a report goes to a sink. -/
abbrev toSink (report : Report) (world : World ω) : Setup Sink ω :=
  ⟨world, report.reporter⟩

/-- A report into a sink that has no limit never fails. -/
theorem follows_unlimited (report : Report) (world : World ω) :
    Follows (fun s s' : Sink => s = s' ∧ s'.limit = none) (toSink report world)
      (toSink report world) where
  read _ _ := .inl rfl
  run _ _ := .inl rfl
  report event s s' := by
    rintro ⟨rfl, hunlimited⟩
    obtain ⟨next, hnext, hlimit⟩ := writeAll_of_unlimited hunlimited (report event)
    exact ⟨next, hnext, .inl ⟨next, hnext, rfl, hlimit⟩⟩

theorem follows_keepsUp (limit : Nat) (report : Report) (world : World ω) :
    Follows (KeepsUp limit) (toSink report world) (toSink report world) where
  read _ _ := .inl rfl
  run _ _ := .inl rfl
  report event s s' := by
    intro h
    obtain ⟨next', hnext', -⟩ := writeAll_of_unlimited h.unlimited (report event)
    refine ⟨next', hnext', ?_⟩
    rcases h.writeAll hnext' with ⟨next, hnext, hkept⟩ | ⟨next, hnext, -, -⟩
    · exact .inl ⟨next, hnext, hkept⟩
    · exact .inr ⟨full, next, hnext⟩

/-- What acts that succeed write to a sink. -/
theorem sink_of_along {p q : Sink × ω} {acts : List Act}
    (h : Along (Act.Performed (toSink report world)) p acts q) :
    q.1.limit = p.1.limit ∧ q.1.bytes = p.1.bytes ++ written report acts := by
  induction h with
  | nil => simp [written]
  | cons hstep _ ih =>
      rw [ih.1, ih.2]
      cases hstep with
      | opened _ => exact ⟨rfl, rfl⟩
      | called _ => exact ⟨rfl, rfl⟩
      | reported hreport =>
          obtain ⟨hlimit, hbytes⟩ := writeAll_eq_ok hreport
          rw [hlimit, hbytes, List.append_assoc]
          exact ⟨rfl, rfl⟩

/-- What fails beside a sink without a limit is no report, and leaves the sink as it is. -/
theorem sink_of_failed {p q : Sink × ω} {act : Act} {f : Failure}
    (h : act.Failed (toSink report world) p f q) (hunlimited : p.1.limit = none) :
    q.1 = p.1 ∧ written report act.attempt = [] := by
  cases h with
  | opened _ => exact ⟨rfl, rfl⟩
  | called _ => exact ⟨rfl, rfl⟩
  | @reported _ _ _ event _ hfails =>
      obtain ⟨next, hnext, -⟩ := writeAll_of_unlimited hunlimited (report event)
      rw [show Sink.writeAll (report event) _ = _ from hfails] at hnext
      cases hnext

/-- Into a sink without a limit a report writes all that it has for the events of the run. -/
theorem bytes_ending_run (settings : Settings) (report : Report) (world : World ω) (start : ω)
    (elapsed : Duration) :
    (ending ((toSink report world).run settings {} start elapsed)).reporter.bytes =
      written report (ending ((toSink report world).run settings {} start elapsed)).log := by
  cases hscripts : world.scripts start settings.root with
  | error e =>
      rw [run_of_not_found hscripts]
      rfl
  | ok scripts =>
      have hempty : ({} : Sink) = {} ∧ ({} : Sink).limit = none := ⟨rfl, rfl⟩
      have hcompares :=
        run_compares (follows_unlimited report world) elapsed hempty hscripts hscripts
      generalize (toSink report world).run settings {} start elapsed = r at hcompares ⊢
      cases hcompares with
      | @ok acts _ s₁ _ hlog hacts _ =>
          have hbytes := (sink_of_along hacts).2
          rw [List.nil_append] at hlog
          rw [← hlog] at hbytes
          exact hbytes
      | @error done act mid f s₁ _ hlog hdone hact _ =>
          obtain ⟨hlimit, hbytes⟩ := sink_of_along hdone
          obtain ⟨hsink, hattempt⟩ := sink_of_failed hact hlimit
          change s₁.states.1.bytes = written report s₁.log
          rw [hlog, written_append, hattempt, hsink, hbytes]
          simp [Session.states, Sink.bytes]
      | breaks _ _ hact _ hmid hperformed =>
          obtain ⟨rfl, -⟩ := hmid
          exact absurd hperformed hact.not_performed

def Session.limited (s : Session Sink ω) (limit : Nat) : Session Sink ω :=
  { s with reporter := s.reporter.limited limit }

/-- A run that ends in the same way, with a limit on its sink. -/
def limitedRun (limit : Nat) :
    EStateM.Result Failure (Session Sink ω) Tally → EStateM.Result Failure (Session Sink ω) Tally
  | .ok t s => .ok t (s.limited limit)
  | .error f s => .error f (s.limited limit)

theorem eq_limited_of_like {limit : Nat} {s s' : Session Sink ω} (h : s.Like (KeepsUp limit) s') :
    s = s'.limited limit := by
  obtain ⟨htally, hlog, hreporter, hworld⟩ := h
  have hsink := hreporter.eq
  cases s
  cases s'
  simp_all [Session.limited]

/-- An act that fails only because the sink is limited is a report that goes past the limit. -/
theorem past_limit_of_failed {limit : Nat} {p q : Sink × ω} {state' : Sink} {last' : Sink × ω}
    {act : Act} {f : Failure} (hkeeps : KeepsUp limit p.1 state')
    (hfailed : act.Failed (toSink report world) p f q)
    (hperformed : act.Performed (toSink report world) (state', p.2) last') :
    ∃ event, act = .reported event ∧ f = .report full ∧
      limit < (p.1.bytes ++ report.bytes event).length ∧
      q.1.bytes = (p.1.bytes ++ report.bytes event).take limit := by
  cases hfailed with
  | opened hfails => exact absurd hperformed (Act.Failed.opened hfails).not_performed
  | called hfails => exact absurd hperformed (Act.Failed.called hfails).not_performed
  | @reported state next w event cause hfails =>
      cases hperformed with
      | @reported _ next' _ _ hwrites =>
          replace hkeeps : KeepsUp limit state state' := hkeeps
          replace hfails : Sink.writeAll (report event) state = .error cause next := hfails
          have hbytes : next'.bytes = state.bytes ++ report.bytes event := by
            rw [(writeAll_eq_ok hwrites).2, hkeeps.eq]
            rfl
          rcases hkeeps.writeAll hwrites with ⟨_, hok, -⟩ | ⟨_, herror, hpast, hfirst⟩
          · rw [hok] at hfails
            cases hfails
          · rw [herror] at hfails
            cases hfails
            rw [hbytes] at hpast hfirst
            exact ⟨event, rfl, rfl, hpast, hfirst⟩

/-- A limit on the bytes that a report can write.  Within the limit the run is the same in all it
does.  Past it, the run ends with the failure of the report on the event whose bytes go past the
limit; the sink then holds the first bytes of the whole report, and all that was done is what comes
before that event in the run without a limit. -/
theorem run_into_limited_sink (settings : Settings) (report : Report) (world : World ω) (start : ω)
    (elapsed : Duration) (limit : Nat) :
    let free := run settings world report.reporter {} start elapsed
    let capped := run settings world report.reporter { limit := some limit } start elapsed
    let all := (ending free).reporter.bytes
    (all.length ≤ limit → capped = limitedRun limit free) ∧
      (limit < all.length →
        ∃ s, capped = .error (.report full) s ∧ s.reporter.bytes = all.take limit ∧
          ∃ event after, (ending free).log = s.log ++ .reported event :: after ∧
            (written report s.log).length ≤ limit ∧
            limit < (written report (s.log ++ [.reported event])).length) := by
  intro free capped all
  have hall : all = written report (ending free).log :=
    bytes_ending_run settings report world start elapsed
  have hbytes : all = (ending free).reporter.bytes := rfl
  clear_value all
  cases hscripts : (toSink report world).world.scripts start settings.root with
  | error e =>
      have hfree : free = .error (.discovery e) { reporter := {}, world := start } :=
        run_of_not_found hscripts
      have hcapped : capped =
          .error (.discovery e) { reporter := { limit := some limit }, world := start } :=
        run_of_not_found hscripts
      rw [hbytes, hfree, hcapped]
      exact ⟨fun _ => rfl, fun hlt => absurd hlt (Nat.not_lt_zero _)⟩
  | ok scripts =>
      have hempty : KeepsUp limit { limit := some limit } {} := ⟨rfl, rfl, Nat.zero_le _⟩
      have hcompares : Compares (KeepsUp limit) (toSink report world) (toSink report world)
          { reporter := { limit := some limit }, world := start } capped free :=
        run_compares (follows_keepsUp limit report world) elapsed hempty hscripts hscripts
      generalize capped = c at hcompares ⊢
      generalize free = r at hcompares hall hbytes ⊢
      cases hcompares with
      | @ok _ t s₁ s₁' _ _ hlike =>
          have hfits : all.length ≤ limit := hbytes ▸ hlike.reporter.fits
          refine ⟨fun _ => ?_, fun hlt => absurd hlt (Nat.not_lt.2 hfits)⟩
          rw [eq_limited_of_like hlike, limitedRun]
      | @error _ _ _ f s₁ s₁' _ _ _ hlike =>
          have hfits : all.length ≤ limit := hbytes ▸ hlike.reporter.fits
          refine ⟨fun _ => ?_, fun hlt => absurd hlt (Nat.not_lt.2 hfits)⟩
          rw [eq_limited_of_like hlike, limitedRun]
      | @breaks done rest act mid state' last' f s₁ _ hlog hdone hact hrest hmid hperformed =>
          obtain ⟨event, rfl, rfl, hpast, hfirst⟩ := past_limit_of_failed hmid hact hperformed
          have hwritten : mid.1.bytes = written report done := (sink_of_along hdone).2
          have hnext : written report (done ++ [.reported event]) =
              mid.1.bytes ++ report.bytes event := by
            rw [written_append, hwritten]
            simp [written, Act.event?]
          have hlog : s₁.log = done := by simpa [Act.attempt] using hlog
          have hmore : all = written report (done ++ [.reported event]) ++ written report rest := by
            rw [hall, hrest, ← written_append]
            simp
          rw [← hnext] at hpast hfirst
          have hlonger : limit < all.length := by
            rw [hmore, List.length_append]
            omega
          refine ⟨fun hfits => absurd hlonger (Nat.not_lt.2 hfits), fun _ => ⟨s₁, rfl, ?_, event,
            rest, ?_, ?_, ?_⟩⟩
          · rw [hmore, List.take_append_of_le_length (Nat.le_of_lt hpast)]
            exact hfirst
          · rw [hrest, hlog]
            simp
          · rw [hlog, ← hwritten, hmid.eq]
            exact hmid.fits
          · rw [hlog]
            exact hpast

end Suite

end Conformance
