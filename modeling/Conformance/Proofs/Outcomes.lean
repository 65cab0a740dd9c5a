import Conformance.Proofs.Trace

/-!
The outcomes that a run reports.  Each bucket of the totals holds the number of visits with its
outcome, so the totals depend on which visits there were and not on their order.
-/

namespace Conformance

/-- The script that is complete and its outcome, if the event says so. -/
def Event.completed? : Event → Option (Path × Outcome)
  | .fileComplete path outcome _ => some (path, outcome)
  | _ => none

namespace Outcome

def isPassed : Outcome → Bool
  | .passed => true
  | _ => false

def isFailed : Outcome → Bool
  | .failed _ => true
  | _ => false

def isSkipped : Outcome → Bool
  | .skipped => true
  | _ => false

def isInvalid : Outcome → Bool
  | .invalid _ => true
  | _ => false

/-- What was found about a script; only a failed one has findings. -/
def findings : Outcome → List Finding
  | .failed findings => findings
  | _ => []

end Outcome

theorem exists_step_of_along {α β : Type} {step : α → β → α → Prop} {a c : α} {labels : List β}
    (h : Along step a labels c) : ∀ label ∈ labels, ∃ b b', step b label b' := by
  induction h with
  | nil => simp
  | cons hstep _ ih => exact List.forall_mem_cons.2 ⟨⟨_, _, hstep⟩, ih⟩

namespace Suite

variable {σ ω : Type} {o : CheckOptions} {visits visits' : List Visit}

/-- The scripts that are complete so far, with their outcomes. -/
def Session.outcomes (s : Session σ ω) : List (Path × Outcome) :=
  s.events.filterMap Event.completed?

def Visit.completed (o : CheckOptions) (v : Visit) : Path × Outcome :=
  (v.script, v.outcome o)

theorem completed_fileEvents (o : CheckOptions) (t : Tally) (visits : List Visit) :
    (fileEvents o t visits).filterMap Event.completed? = visits.map (Visit.completed o) := by
  induction visits generalizing t with
  | nil => rfl
  | cons v visits ih =>
      simp [fileEvents, List.filterMap_cons, Event.completed?, Visit.completed, ih]

theorem completed_events (o : CheckOptions) (elapsed : Duration) (visits : List Visit) :
    (events o elapsed visits).filterMap Event.completed? = visits.map (Visit.completed o) := by
  simp [events, List.filterMap_cons, Event.completed?, completed_fileEvents]

/-- A run over some visits reports their outcomes. -/
theorem outcomes_of_trace (settings : Settings) (elapsed : Duration) (visits : List Visit)
    (t : Tally) (state : σ) (after : ω) :
    (Session.mk t (trace settings elapsed visits) state after).outcomes =
      visits.map (Visit.completed settings.check) := by
  rw [Session.outcomes, Session.events, filterMap_event?_trace, completed_events]

theorem findings_outcome_tested (o : CheckOptions) (script : Path) (e : Expectation) (r : Run) :
    ((Visit.tested script e r).outcome o).findings = (check o e r).map Discrepancy.finding := by
  rw [Visit.outcome_tested]
  cases check o e r <;> rfl

/-- A field that grows by one at some visits counts them. -/
theorem foldl_count_eq (field : Tally → Nat) (counts : Outcome → Bool)
    (h : ∀ t v, field (Visit.count o t v) = field t + if counts (v.outcome o) then 1 else 0)
    (t : Tally) (visits : List Visit) :
    field (visits.foldl (Visit.count o) t) =
      field t + (visits.map (Visit.outcome o)).countP counts := by
  induction visits generalizing t with
  | nil => rfl
  | cons v visits ih =>
      rw [List.foldl_cons, ih, h, List.map_cons, List.countP_cons]
      omega

theorem passed_totals (o : CheckOptions) (visits : List Visit) :
    (totals o visits).passed = (visits.map (Visit.outcome o)).countP Outcome.isPassed := by
  rw [totals, foldl_count_eq Tally.passed Outcome.isPassed]
  · exact Nat.zero_add _
  · intro t v
    unfold Visit.count
    cases v.outcome o <;> rfl

theorem failed_totals (o : CheckOptions) (visits : List Visit) :
    (totals o visits).failed = (visits.map (Visit.outcome o)).countP Outcome.isFailed := by
  rw [totals, foldl_count_eq Tally.failed Outcome.isFailed]
  · exact Nat.zero_add _
  · intro t v
    unfold Visit.count
    cases v.outcome o <;> rfl

theorem invalid_totals (o : CheckOptions) (visits : List Visit) :
    (totals o visits).invalid = (visits.map (Visit.outcome o)).countP Outcome.isInvalid := by
  rw [totals, foldl_count_eq Tally.invalid Outcome.isInvalid]
  · exact Nat.zero_add _
  · intro t v
    unfold Visit.count
    cases v.outcome o <;> rfl

theorem expectations_totals (o : CheckOptions) (visits : List Visit) :
    (totals o visits).expectations = (visits.map Visit.markers).sum := by
  rw [totals, expectations_foldl_count]
  exact Nat.zero_add _

/-- Two visits are counted alike in either order. -/
theorem count_right_comm (o : CheckOptions) (t : Tally) (v w : Visit) :
    Visit.count o (Visit.count o t v) w = Visit.count o (Visit.count o t w) v := by
  simp only [Visit.count, Nat.add_right_comm]

theorem totals_eq_of_perm (h : visits.Perm visits') : totals o visits = totals o visits' :=
  h.foldl_eq' (fun v _ w _ t => count_right_comm o t v w) {}

end Suite

end Conformance
