import Conformance.Proofs.Outcomes
import Conformance.Proofs.Sink
import Conformance.Proofs.Utf8

/-!
The text of a report.  A sink that has handled all events holds their texts one after the other, and
a sink without a limit handles every event.
-/

namespace Conformance

/-- The texts that a report writes for events, as one text. -/
def Report.text (report : Report) (events : List Event) : Text :=
  events.flatMap fun event => (report event).flatten

theorem Report.text_append (report : Report) (front back : List Event) :
    report.text (front ++ back) = report.text front ++ report.text back := by
  simp [Report.text]

theorem Report.text_cons (report : Report) (event : Event) (rest : List Event) :
    report.text (event :: rest) = (report event).flatten ++ report.text rest := rfl

theorem Text.toUtf8_flatten (ts : List Text) : Text.toUtf8 ts.flatten = ts.flatMap Text.toUtf8 := by
  induction ts with
  | nil => rfl
  | cons t ts ih => rw [List.flatten_cons, Text.toUtf8_append, ih, List.flatMap_cons]

namespace Suite

variable {report : Report} {s s' : Sink} {done : List Event}

/-- Events that a report has handled stand in its sink. -/
theorem bytes_of_handled (h : Along (Handles report.reporter) s done s') :
    s'.bytes = s.bytes ++ Text.toUtf8 (report.text done) := by
  induction h with
  | nil => simp [Report.text]
  | cons hhandles _ ih =>
      have hbytes := (Sink.writeAll_eq_ok hhandles).2
      rw [ih, hbytes, Report.text_cons, Text.toUtf8_append, Text.toUtf8_flatten, List.append_assoc]

theorem text_of_handled (h : Along (Handles report.reporter) s done s') (hempty : s.bytes = []) :
    s'.text = report.text done := by
  rw [Sink.text, bytes_of_handled h, hempty, List.nil_append, Text.ofUtf8_toUtf8]

/-- The reporter handles all events, whatever happens. -/
def Willing {σ : Type} (reporter : Reporter σ) (state : σ) : Prop :=
  ∀ all, ∃ state', Along (Handles reporter) state all state'

theorem willing_of_unlimited (report : Report) (h : s.limit = none) :
    Willing report.reporter s := by
  intro all
  induction all generalizing s with
  | nil => exact ⟨s, .nil⟩
  | cons event rest ih =>
      obtain ⟨next, hnext, hlimit⟩ := Sink.writeAll_of_unlimited h (report event)
      obtain ⟨s', hrest⟩ := ih hlimit
      exact ⟨s', .cons hnext hrest⟩

/-- With a reporter that handles all events, a run over visits that the world allows gives their
totals. -/
theorem exists_run_of_willing {σ ω : Type} {settings : Settings} {world : World ω}
    {reporter : Reporter σ} {state : σ} {start after : ω} {visits : List Visit}
    (hfound : world.scripts start settings.root = .ok (visits.map Visit.script))
    (hvisited : Along (Visited world settings.interpreter) start visits after)
    (hwilling : Willing reporter state) (elapsed : Duration) :
    ∃ state', Along (Handles reporter) state (events settings.check elapsed visits) state' ∧
      run settings world reporter state start elapsed = .ok (totals settings.check visits)
        ⟨totals settings.check visits, trace settings elapsed visits, state', after⟩ := by
  obtain ⟨state', hhandled⟩ := hwilling (events settings.check elapsed visits)
  exact ⟨state', hhandled,
    run_eq_ok_iff.2 ⟨visits, state', after, ⟨hfound, hvisited, hhandled⟩, rfl, rfl⟩⟩

/-- Every report of `smallWorld` can be written. -/
theorem exists_run_small (report : Report) :
    ∃ s, run smallSettings smallWorld report.reporter {} 0 {} = .ok ⟨2, 1, 1, 1, 4⟩ s ∧
      s.outcomes = smallVisits.map (Visit.completed {}) := by
  have htotals : totals smallSettings.check smallVisits = ⟨2, 1, 1, 1, 4⟩ := by decide
  obtain ⟨state', -, hrun⟩ := exists_run_of_willing unfailing_small.found unfailing_small.visited
    (willing_of_unlimited (s := {}) report rfl) {}
  rw [htotals] at hrun
  exact ⟨_, hrun, outcomes_of_trace smallSettings {} smallVisits _ state' 3⟩

end Suite

end Conformance
