import Mathlib.Data.List.Forall2
import Conformance.Benchmark
import Conformance.Proofs.BestTimes

/-!
Interpreters take turns, each once in a trial.  The times measured in these turns fix the best
times after each trial, and with them what a benchmark writes: after each complete trial its
number, and for every interpreter in order its best time so far.
-/

namespace Conformance.Benchmark

variable {settings : Settings}

namespace Settings

/-! ### Calls in turn -/

/-- The call at a place in the order in which the interpreters take turns. -/
def turn (settings : Settings) (place : Nat) : Call :=
  ⟨settings.interpreters.getD (place % settings.interpreters.length) [], settings.script⟩

/-- So many calls in turn, from a place on. -/
def turns (settings : Settings) (place count : Nat) : List Call :=
  (List.range' place count).map settings.turn

@[simp] theorem length_turns (settings : Settings) (place count : Nat) :
    (settings.turns place count).length = count := by
  simp [turns]

theorem length_of_turns {α : Type} {runs : List (Call × α)} {place count : Nat}
    (h : runs.map Prod.fst = settings.turns place count) : runs.length = count := by
  rw [← List.length_map Prod.fst, h, length_turns]

theorem turns_succ (settings : Settings) (place count : Nat) :
    settings.turns place (count + 1) =
      settings.turn place :: settings.turns (place + 1) count := by
  simp [turns, List.range'_succ]

theorem turns_append (settings : Settings) (place first more : Nat) :
    settings.turns place first ++ settings.turns (place + first) more =
      settings.turns place (first + more) := by
  rw [turns, turns, ← List.map_append, List.range'_append_1, turns]

theorem turns_concat (settings : Settings) (place count : Nat) :
    settings.turns place (count + 1) =
      settings.turns place count ++ [settings.turn (place + count)] := by
  rw [← turns_append, turns_succ]
  rfl

/-- A part of the calls in turn is in turn. -/
theorem turns_split {place count first : Nat} {calls : List Call}
    (h : calls = settings.turns place count) (hfirst : first ≤ count) :
    calls.take first = settings.turns place first ∧
      calls.drop first = settings.turns (place + first) (count - first) := by
  have hsplit : calls = settings.turns place first ++ settings.turns (place + first)
      (count - first) := by
    rw [turns_append, Nat.add_sub_of_le hfirst, h]
  constructor
  · rw [hsplit, List.take_left' (length_turns settings place first)]
  · rw [hsplit, List.drop_left' (length_turns settings place first)]

/-- In each trial the interpreters come one after the other. -/
theorem turn_of_drop {index : Nat} {interpreter : Path} {rest : List Path}
    (h : settings.interpreters.drop index = interpreter :: rest) (trials : Nat) :
    (trials * settings.interpreters.length + index) % settings.interpreters.length = index ∧
      settings.turn (trials * settings.interpreters.length + index) =
        ⟨interpreter, settings.script⟩ := by
  have hhead : settings.interpreters[index]? = some interpreter := by
    rw [← List.head?_drop, h, List.head?_cons]
  have hindex : index < settings.interpreters.length := (List.getElem?_eq_some_iff.1 hhead).1
  have hplace := Nat.mul_add_mod_of_lt (a := trials) hindex
  refine ⟨hplace, ?_⟩
  rw [turn, hplace, List.getD_eq_getElem?_getD, hhead, Option.getD_some]

/-! ### What the times amount to -/

/-- The times with the indices of the interpreters that took them in turn. -/
def indexed (settings : Settings) (times : List Float) : List (Nat × Float) :=
  times.zipIdx.map fun m => (m.2 % settings.interpreters.length, m.1)

/-- The best times after some times measured in turn. -/
def bestAfter (settings : Settings) (times : List Float) : BestTimes :=
  (BestTimes.start settings.interpreters).recordAll (settings.indexed times)

theorem bestAfter_concat (settings : Settings) (times : List Float) (time : Float) :
    settings.bestAfter (times ++ [time]) =
      (settings.bestAfter times).record (times.length % settings.interpreters.length) time := by
  rw [bestAfter, indexed, List.zipIdx_append, List.map_append, BestTimes.recordAll_append]
  simp [bestAfter, indexed]

/-- The report on the trial of a number, given the times of all turns. -/
def reportOn (settings : Settings) (times : List Float) (number : Nat) : List Text :=
  trialLines settings (UInt64.ofNat number)
    (settings.bestAfter (times.take (number * settings.interpreters.length)))

/-- The bytes of the reports on the first trials. -/
def written (settings : Settings) (times : List Float) (trials : Nat) : List UInt8 :=
  (List.range' 1 trials).flatMap fun number =>
    (settings.reportOn times number).flatMap Text.toUtf8

@[simp] theorem written_zero (settings : Settings) (times : List Float) :
    settings.written times 0 = [] := rfl

theorem written_succ (settings : Settings) (times : List Float) (trials : Nat) :
    settings.written times (trials + 1) =
      settings.written times trials ++
        (settings.reportOn times (trials + 1)).flatMap Text.toUtf8 := by
  rw [written, List.range'_concat, List.flatMap_append, Nat.one_mul, Nat.add_comm 1 trials]
  simp [written]

/-- Later turns change no report on an earlier trial. -/
theorem written_append {times : List Float} {trials : Nat}
    (h : trials * settings.interpreters.length ≤ times.length) (more : List Float) :
    settings.written (times ++ more) trials = settings.written times trials := by
  induction trials with
  | zero => rfl
  | succ trials ih =>
      have hless : trials * settings.interpreters.length ≤ times.length :=
        Nat.le_trans (Nat.mul_le_mul_right _ (Nat.le_succ trials)) h
      rw [written_succ, written_succ, ih hless, reportOn, List.take_append_of_le_length h,
        ← reportOn]

end Settings

/-! ### The shape of a report -/

def heading (number : Nat) : Text :=
  "trial #".toList ++ Numeral.ofNat number

/-- A report announces a trial and the best times of the interpreters: one interpreter on the line
of the trial, several ones on a line each below it, and nothing if there is none. -/
inductive Announces (number : Nat) : List (Path × Float) → List Text → Prop
  | nothing : Announces number [] []
  | single (interpreter : Path) (best : Float) :
      Announces number [(interpreter, best)]
        [heading number ++ ' ' :: interpreter ++ "  best ".toList ++ Decimal.fixed 2 best ++
          "s\n".toList]
  | several {entries : List (Path × Float)} {lines : List Text} (hseveral : 1 < entries.length)
      (hlines : List.Forall₂
        (fun entry line => ∃ verdict, line = comparisonLine (entry.1, entry.2, verdict))
        entries lines) :
      Announces number entries ((heading number ++ ['\n']) :: lines)

/-- The comparison has a line for each interpreter, in order. -/
theorem forall₂_comparisonLine {best : BestTimes} (hne : best.entries ≠ [])
    (hnumbers : ∀ time ∈ best.entries.map Prod.snd, time.isNaN = false) :
    List.Forall₂ (fun entry line => ∃ verdict, line = comparisonLine (entry.1, entry.2, verdict))
      best.entries (best.compare.map comparisonLine) := by
  obtain ⟨first, least, hfastest, -⟩ := BestTimes.exists_fastest? hne hnumbers
  have hplaces : List.Forall₂
      (fun entry line => ∃ verdict, line = comparisonLine (entry.1, entry.2, verdict))
      (best.entries.zipIdx.map Prod.fst) (best.compare.map comparisonLine) := by
    rw [BestTimes.compare, hfastest, List.map_map, List.forall₂_map_left_iff,
      List.forall₂_map_right_iff, List.forall₂_same]
    intro place _
    exact ⟨_, rfl⟩
  rwa [List.zipIdx_map_fst] at hplaces

/-- What is written after a trial announces it, if every best time is a number. -/
theorem announces_trialLines {best : BestTimes} (number : UInt64)
    (hnames : best.entries.map Prod.fst = settings.interpreters)
    (hnumbers : ∀ time ∈ best.entries.map Prod.snd, time.isNaN = false) :
    Announces number.toNat best.entries (trialLines settings number best) := by
  have hlength : best.entries.length = settings.interpreters.length := by
    rw [← hnames, List.length_map]
  unfold trialLines
  split
  next hseveral =>
    have hmany : 1 < best.entries.length := hlength ▸ of_decide_eq_true hseveral
    have hne : best.entries ≠ [] := List.ne_nil_of_length_pos (Nat.lt_of_succ_lt hmany)
    exact .several hmany (forall₂_comparisonLine hne hnumbers)
  next hfew =>
    rw [Settings.isComparison, decide_eq_true_eq, ← hlength] at hfew
    split
    next hnil =>
      rw [hnil] at hnames
      rw [List.map_eq_nil_iff.1 hnames]
      exact .nothing
    next interpreter rest hcons =>
      obtain ⟨entry, hentry⟩ : ∃ entry, best.entries = [entry] := by
        apply List.length_eq_one_iff.1
        rw [hcons, List.length_cons] at hlength
        omega
      rw [BestTimes.best?, hentry]
      rw [hcons, hentry] at hnames
      obtain rfl : entry.1 = interpreter := (List.cons.inj hnames).1
      exact .single entry.1 entry.2

/-- The report on a trial announces it, if its number fits in 64 bits. -/
theorem announces_reportOn (settings : Settings) (times : List Float) {number : Nat}
    (hnumber : number < UInt64.size) :
    Announces number
      (settings.bestAfter (times.take (number * settings.interpreters.length))).entries
      (settings.reportOn times number) := by
  have hword : (UInt64.ofNat number).toNat = number := UInt64.toNat_ofNat_of_lt' hnumber
  have hannounces := announces_trialLines (UInt64.ofNat number)
    (BestTimes.map_fst_recordAll_start settings.interpreters
      (settings.indexed (times.take (number * settings.interpreters.length))))
    fun _ => BestTimes.isNaN_of_mem_entries
  rw [hword] at hannounces
  exact hannounces

end Conformance.Benchmark
