import Mathlib.Data.List.Induction
import Mathlib.Order.Bounds.Defs
import Conformance.Benchmark.BestTimes
import Conformance.Proofs.FloatOrder

/-!
The best times after any measurements.  Each is a number that was measured of its interpreter, and
no measured time is less; so what is no number never counts, and the times can be ranked.  One
interpreter is the fastest, the first of those that no other one beats.
-/

namespace Conformance.Benchmark

def Verdict.isFaster : Verdict → Bool
  | .faster _ => true
  | .timeOfBest _ => false

namespace BestTimes

variable {t : BestTimes} {interpreters : List Path} {measured : List (Nat × Float)}
  {i index : Nat} {best before after elapsed : Float}

/-- The best times after some measurements, each with the index of its interpreter. -/
def recordAll (t : BestTimes) (measured : List (Nat × Float)) : BestTimes :=
  measured.foldl (fun t m => t.record m.1 m.2) t

@[simp] theorem recordAll_nil (t : BestTimes) : t.recordAll [] = t := rfl

@[simp] theorem recordAll_cons (t : BestTimes) (m : Nat × Float) (measured : List (Nat × Float)) :
    t.recordAll (m :: measured) = (t.record m.1 m.2).recordAll measured := rfl

theorem recordAll_append (t : BestTimes) (front back : List (Nat × Float)) :
    t.recordAll (front ++ back) = (t.recordAll front).recordAll back :=
  List.foldl_append

theorem best?_start (interpreters : List Path) (i : Nat) :
    (start interpreters).best? i = interpreters[i]?.map fun _ => unmeasured := by
  simp [best?, start, Function.comp_def]

/-- A measurement can change the best time of its own interpreter only. -/
theorem best?_record (t : BestTimes) (index : Nat) (elapsed : Float) (i : Nat) :
    (t.record index elapsed).best? i =
      if index = i then (t.best? i).map (better · elapsed) else t.best? i := by
  rw [best?, best?, record, List.getElem?_modify]
  split <;> simp [Function.comp_def]

theorem map_fst_record (t : BestTimes) (index : Nat) (elapsed : Float) :
    (t.record index elapsed).entries.map Prod.fst = t.entries.map Prod.fst := by
  apply List.ext_getElem?
  intro i
  rw [record, List.getElem?_map, List.getElem?_modify, List.getElem?_map]
  split <;> simp [Function.comp_def]

theorem map_fst_recordAll (t : BestTimes) (measured : List (Nat × Float)) :
    (t.recordAll measured).entries.map Prod.fst = t.entries.map Prod.fst := by
  induction measured generalizing t with
  | nil => rfl
  | cons m measured ih => rw [recordAll_cons, ih, map_fst_record]

theorem best?_recordAll_of_forall_ne (h : ∀ m ∈ measured, m.1 ≠ i) :
    (t.recordAll measured).best? i = t.best? i := by
  induction measured generalizing t with
  | nil => rfl
  | cons m measured ih =>
      rw [recordAll_cons, ih fun other hother => h other (List.mem_cons_of_mem m hother),
        best?_record, if_neg (h m List.mem_cons_self)]

/-! ### The best of what was measured -/

/-- The best of the times measured of the interpreter at an index, which before any measurement is
plus infinity. -/
structure IsBest (measured : List (Nat × Float)) (i : Nat) (best : Float) : Prop where
  isNumber : best.isNaN = false
  met : best = unmeasured ∨ (i, best) ∈ measured
  least : ∀ time, (i, time) ∈ measured → ¬ time < best

theorem isBest_nil (i : Nat) : IsBest [] i unmeasured :=
  ⟨by decide, .inl rfl, fun _ h => absurd h List.not_mem_nil⟩

example : unmeasured.isInf = true ∧ (0.0 : Float) < unmeasured := by decide

theorem IsBest.record (h : IsBest measured i best) (index : Nat) (elapsed : Float) :
    IsBest (measured ++ [(index, elapsed)]) i
      (if index = i then better best elapsed else best) := by
  obtain ⟨hnumber, hmet, hleast⟩ := h
  have hkeeps : best = unmeasured ∨ (i, best) ∈ measured ++ [(index, elapsed)] :=
    hmet.imp_right (List.mem_append_left _)
  by_cases hi : index = i
  · subst hi
    rw [if_pos rfl, better]
    split
    · next hlt =>
        refine ⟨(Decimal.isNaN_of_lt hlt).1, .inr (by simp), fun time htime hless => ?_⟩
        rcases List.mem_append.1 htime with hold | hnew
        · exact hleast time hold (Decimal.lt_of_lt_of_lt hless hlt)
        · obtain ⟨-, rfl⟩ := Prod.mk.inj (List.mem_singleton.1 hnew)
          exact Decimal.not_lt_self time hless
    · next hnot =>
        refine ⟨hnumber, hkeeps, fun time htime => ?_⟩
        rcases List.mem_append.1 htime with hold | hnew
        · exact hleast time hold
        · obtain ⟨-, rfl⟩ := Prod.mk.inj (List.mem_singleton.1 hnew)
          exact hnot
  · rw [if_neg hi]
    refine ⟨hnumber, hkeeps, fun time htime => ?_⟩
    rcases List.mem_append.1 htime with hold | hnew
    · exact hleast time hold
    · exact absurd (Prod.mk.inj (List.mem_singleton.1 hnew)).1.symm hi

/-- Every interpreter has a best time, whatever was measured. -/
theorem exists_isBest (measured : List (Nat × Float)) (hi : i < interpreters.length) :
    ∃ best, ((start interpreters).recordAll measured).best? i = some best ∧
      IsBest measured i best := by
  induction measured using List.reverseRecOn with
  | nil =>
      refine ⟨unmeasured, ?_, isBest_nil i⟩
      rw [recordAll_nil, best?_start, List.getElem?_eq_getElem hi, Option.map_some]
  | append_singleton measured m ih =>
      obtain ⟨best, hbest, hisBest⟩ := ih
      refine ⟨_, ?_, hisBest.record m.1 m.2⟩
      rw [recordAll_append, recordAll_cons, recordAll_nil, best?_record, hbest]
      split <;> rfl

theorem better_eq_or_lt (best elapsed : Float) :
    better best elapsed = best ∨ better best elapsed < best := by
  unfold better
  split
  · next hlt => exact .inr hlt
  · exact .inl rfl

/-- More measurements leave a best time as it is or make it less. -/
theorem eq_or_lt_of_recordAll (hbefore : t.best? i = some before)
    (hafter : (t.recordAll measured).best? i = some after) : after = before ∨ after < before := by
  induction measured generalizing t before with
  | nil =>
      rw [recordAll_nil, hbefore] at hafter
      exact .inl (Option.some.inj hafter).symm
  | cons m measured ih =>
      have hnext := best?_record t m.1 m.2 i
      rw [hbefore] at hnext
      rw [recordAll_cons] at hafter
      split at hnext
      · rcases ih hnext hafter with rfl | hless
        · exact better_eq_or_lt before m.2
        · rcases better_eq_or_lt before m.2 with hsame | hlt
          · exact .inr (hsame ▸ hless)
          · exact .inr (Decimal.lt_of_lt_of_lt hless hlt)
      · exact ih hnext hafter

/-! ### The fastest interpreter -/

/-- The first of the least times, with its index. -/
structure IsFastest (times : List Float) (first : Nat) (least : Float) : Prop where
  at_first : times[first]? = some least
  unbeaten : ∀ time ∈ times, ¬ time < least
  leftmost : ∀ i time, i < first → times[i]? = some time → least < time

variable {times : List Float} {first : Nat} {least time : Float}

theorem isFastest_singleton (time : Float) : IsFastest [time] 0 time := by
  refine ⟨rfl, fun other hother => ?_, fun i other hi => absurd hi (Nat.not_lt_zero i)⟩
  rw [List.mem_singleton.1 hother]
  exact Decimal.not_lt_self time

/-- A time that is less than the least one is the only one that is least. -/
theorem IsFastest.concat_of_lt (h : IsFastest times first least)
    (hnumbers : ∀ other ∈ times, other.isNaN = false) (hlt : time < least) :
    IsFastest (times ++ [time]) times.length time := by
  have habove : ∀ other ∈ times, time < other := fun other hother =>
    (Decimal.lt_or_lt_of_lt hlt (hnumbers other hother)).resolve_right (h.unbeaten other hother)
  refine ⟨by simp, fun other hother hless => ?_, fun i other hi hother => ?_⟩
  · rcases List.mem_append.1 hother with hold | hnew
    · exact Decimal.not_lt_self time (Decimal.lt_of_lt_of_lt (habove other hold) hless)
    · rw [List.mem_singleton.1 hnew] at hless
      exact Decimal.not_lt_self time hless
  · rw [List.getElem?_append_left hi] at hother
    exact habove other (List.mem_of_getElem? hother)

/-- Any other time behind the first least one changes nothing. -/
theorem IsFastest.concat_of_not_lt (h : IsFastest times first least) (hnot : ¬ time < least) :
    IsFastest (times ++ [time]) first least := by
  have hfirst : first < times.length := (List.getElem?_eq_some_iff.1 h.at_first).1
  refine ⟨?_, fun other hother => ?_, fun i other hi hother => ?_⟩
  · rw [List.getElem?_append_left hfirst]
    exact h.at_first
  · rcases List.mem_append.1 hother with hold | hnew
    · exact h.unbeaten other hold
    · rw [List.mem_singleton.1 hnew]
      exact hnot
  · rw [List.getElem?_append_left (Nat.lt_trans hi hfirst)] at hother
    exact h.leftmost i other hi hother

theorem isFastest_fastestFrom {rest : List (Path × Float)} (h : IsFastest times first least)
    (hnumbers : ∀ time ∈ times ++ rest.map Prod.snd, time.isNaN = false) :
    ∃ first' least', fastestFrom times.length (some (first, least)) rest = some (first', least') ∧
      IsFastest (times ++ rest.map Prod.snd) first' least' := by
  induction rest generalizing times first least with
  | nil => exact ⟨first, least, rfl, by rwa [List.map_nil, List.append_nil]⟩
  | cons entry rest ih =>
      obtain ⟨interpreter, time⟩ := entry
      have hsplit : times ++ ((interpreter, time) :: rest).map Prod.snd =
          (times ++ [time]) ++ rest.map Prod.snd := by simp
      rw [hsplit] at hnumbers ⊢
      have hlength : (times ++ [time]).length = times.length + 1 := by simp
      rw [fastestFrom, ← hlength]
      split
      · next hlt =>
          apply ih _ hnumbers
          apply h.concat_of_lt (fun other hother => ?_) hlt
          exact hnumbers other (List.mem_append_left _ (List.mem_append_left _ hother))
      · next hnot => exact ih (h.concat_of_not_lt hnot) hnumbers

/-- Among numbers there is a fastest one unless there is none at all. -/
theorem exists_fastest? (hne : t.entries ≠ [])
    (hnumbers : ∀ time ∈ t.entries.map Prod.snd, time.isNaN = false) :
    ∃ first least, t.fastest? = some (first, least) ∧
      IsFastest (t.entries.map Prod.snd) first least := by
  obtain ⟨⟨interpreter, time⟩, rest, hentries⟩ := List.exists_cons_of_ne_nil hne
  rw [hentries] at hnumbers
  rw [fastest?, hentries]
  exact isFastest_fastestFrom (isFastest_singleton time) hnumbers

/-! ### The comparison -/

/-- No interpreter has a better time than the one at an index. -/
def Unbeaten (t : BestTimes) (i : Nat) : Prop :=
  ∃ time, t.best? i = some time ∧ ∀ j other, t.best? j = some other → ¬ other < time

theorem best?_eq_getElem? (t : BestTimes) (i : Nat) :
    t.best? i = (t.entries.map Prod.snd)[i]? := by
  rw [best?, List.getElem?_map]

theorem IsFastest.isLeast (h : IsFastest (t.entries.map Prod.snd) first least) :
    IsLeast {i | t.Unbeaten i} first := by
  constructor
  · refine ⟨least, by rw [best?_eq_getElem?, h.at_first], fun j other hother => ?_⟩
    rw [best?_eq_getElem?] at hother
    exact h.unbeaten other (List.mem_of_getElem? hother)
  · rintro i ⟨time, htime, hunbeaten⟩
    rw [best?_eq_getElem?] at htime
    by_contra hbelow
    apply hunbeaten first least
    · rw [best?_eq_getElem?, h.at_first]
    · exact h.leftmost i time (Nat.lt_of_not_le hbelow) htime

def verdict (t : BestTimes) (first : Nat) (least : Float) (i : Nat) (time : Float) : Verdict :=
  if i = first then .faster (100.0 * (t.worst / least - 1.0)) else .timeOfBest (time / least)

theorem getElem?_compare (h : t.fastest? = some (first, least)) (i : Nat) :
    t.compare[i]? =
      t.entries[i]?.map fun entry => (entry.1, entry.2, t.verdict first least i entry.2) := by
  rw [compare, h]
  simp [List.getElem?_zipIdx, Function.comp_def, verdict]

theorem isFaster_verdict_iff (t : BestTimes) (first : Nat) (least : Float) (i : Nat)
    (time : Float) : (t.verdict first least i time).isFaster = true ↔ i = first := by
  unfold verdict
  split <;> simp [Verdict.isFaster, *]

/-- The comparison goes through the interpreters in order, each with its best time. -/
theorem getElem?_compare_map (hnumbers : ∀ time ∈ t.entries.map Prod.snd, time.isNaN = false)
    (i : Nat) :
    t.compare[i]?.map (fun entry => (entry.1, some entry.2.1)) =
      (t.entries.map Prod.fst)[i]?.map fun interpreter => (interpreter, t.best? i) := by
  by_cases hne : t.entries = []
  · simp [compare, fastest?, fastestFrom, hne]
  · obtain ⟨first, least, hfastest, -⟩ := exists_fastest? hne hnumbers
    rw [getElem?_compare hfastest, best?, List.getElem?_map]
    cases t.entries[i]? <;> rfl

theorem map_fst_recordAll_start (interpreters : List Path) (measured : List (Nat × Float)) :
    ((start interpreters).recordAll measured).entries.map Prod.fst = interpreters := by
  rw [map_fst_recordAll]
  simp [start, Function.comp_def]

theorem length_entries_recordAll (interpreters : List Path) (measured : List (Nat × Float)) :
    ((start interpreters).recordAll measured).entries.length = interpreters.length := by
  rw [← List.length_map (f := Prod.fst), map_fst_recordAll_start]

theorem isNaN_of_mem_entries {time : Float}
    (h : time ∈ ((start interpreters).recordAll measured).entries.map Prod.snd) :
    time.isNaN = false := by
  obtain ⟨i, hi⟩ := List.mem_iff_getElem?.1 h
  have hrange : i < interpreters.length := by
    rw [← length_entries_recordAll interpreters measured]
    simpa using (List.getElem?_eq_some_iff.1 hi).1
  obtain ⟨best, hbest, hisBest⟩ := exists_isBest measured hrange
  rw [best?_eq_getElem?, hi] at hbest
  rw [Option.some.inj hbest]
  exact hisBest.isNumber

/-- The best times after any measurements.  Each is the best of what was measured of its
interpreter; more measurements never make it greater, and those of other interpreters or of none
leave it as it is.  The comparison has one entry for each interpreter, in order and with its best
time, and calls exactly one the fastest: the first one that no other has beaten. -/
theorem compare_after_measurements (interpreters : List Path) (measured : List (Nat × Float)) :
    let t := (start interpreters).recordAll measured
    (∀ i, i < interpreters.length → ∃ best, t.best? i = some best ∧ IsBest measured i best) ∧
      (∀ i, interpreters.length ≤ i → t.best? i = none) ∧
      (∀ more i before after, t.best? i = some before → (t.recordAll more).best? i = some after →
        after = before ∨ after < before) ∧
      (∀ more i, (∀ m ∈ more, m.1 ≠ i ∨ interpreters.length ≤ m.1) →
        (t.recordAll more).best? i = t.best? i) ∧
      (∀ i, t.compare[i]?.map (fun entry => (entry.1, some entry.2.1)) =
        interpreters[i]?.map fun interpreter => (interpreter, t.best? i)) ∧
      (interpreters ≠ [] → ∃ first, IsLeast {i | t.Unbeaten i} first ∧
        ∀ i entry, t.compare[i]? = some entry → (entry.2.2.isFaster = true ↔ i = first)) := by
  intro t
  have hnames : t.entries.map Prod.fst = interpreters :=
    map_fst_recordAll_start interpreters measured
  have hnumbers : ∀ time ∈ t.entries.map Prod.snd, time.isNaN = false :=
    fun time => isNaN_of_mem_entries
  have hnone : ∀ more i, interpreters.length ≤ i → (t.recordAll more).best? i = none := by
    intro more i hi
    rw [← recordAll_append, best?_eq_getElem?, List.getElem?_eq_none_iff, List.length_map,
      length_entries_recordAll]
    exact hi
  refine ⟨fun i hi => exists_isBest measured hi, hnone [],
    fun more i before after => eq_or_lt_of_recordAll, fun more i hmore => ?_, ?_, fun hne => ?_⟩
  · rcases Nat.lt_or_ge i interpreters.length with hi | hi
    · apply best?_recordAll_of_forall_ne
      rintro m hm rfl
      exact (hmore m hm).elim (absurd rfl) (Nat.not_le_of_lt hi)
    · rw [hnone more i hi]
      exact (hnone [] i hi).symm
  · intro i
    rw [getElem?_compare_map hnumbers, hnames]
  · have hentries : t.entries ≠ [] := by
      intro hnil
      rw [hnil] at hnames
      exact hne hnames.symm
    obtain ⟨first, least, hfastest, hisFastest⟩ := exists_fastest? hentries hnumbers
    refine ⟨first, hisFastest.isLeast, fun i entry hentry => ?_⟩
    rw [getElem?_compare hfastest, Option.map_eq_some_iff] at hentry
    obtain ⟨⟨interpreter, time⟩, -, rfl⟩ := hentry
    exact isFaster_verdict_iff t first least i time

/-- Four interpreters, of which the last one never finishes. -/
def fourNames : List Path :=
  ["a", "b", "c", "d"].map String.toList

/-- Times with ties between zeros, with what is no number and with indices out of range. -/
def tiedTimes : List (Nat × Float) :=
  let nan := Float.ofBits 0x7FF8000000000000
  [(0, 2.0), (1, nan), (1, 0.0), (2, -0.0), (7, -1.0), (2, 0.0), (0, nan), (1, -0.0)]

theorem compare_after_measurements_tied :
    let t := (start fourNames).recordAll tiedTimes
    IsBest tiedTimes 0 2.0 ∧ IsBest tiedTimes 1 0.0 ∧ IsBest tiedTimes 2 (-0.0) ∧
      IsBest tiedTimes 3 unmeasured ∧ IsLeast {i | t.Unbeaten i} 1 := by
  intro t
  obtain ⟨hbest, -, -, -, -, hfastest⟩ := compare_after_measurements fourNames tiedTimes
  have hisBest : ∀ i time, i < 4 → t.best? i = some time → IsBest tiedTimes i time := by
    intro i time hi htime
    obtain ⟨best, hsome, hisBest⟩ := hbest i hi
    rw [show t.best? i = some best from hsome] at htime
    exact Option.some.inj htime ▸ hisBest
  refine ⟨hisBest 0 _ (by decide) (by decide +kernel), hisBest 1 _ (by decide) (by decide +kernel),
    hisBest 2 _ (by decide) (by decide +kernel), hisBest 3 _ (by decide) (by decide +kernel), ?_⟩
  obtain ⟨first, hleast, hverdicts⟩ := hfastest (by decide)
  have hone : (t.compare[1]?.map fun entry => entry.2.2.isFaster) = some true := by decide +kernel
  obtain ⟨entry, hentry, hfaster⟩ := Option.map_eq_some_iff.1 hone
  obtain rfl := (hverdicts 1 entry hentry).1 hfaster
  exact hleast

end BestTimes
end Conformance.Benchmark
