import Conformance.Proofs.Decimal
import Conformance.Proofs.Json
import Conformance.Proofs.Report
import Conformance.Proofs.Verdict
import Conformance.Report.JsonLines

/-!
Reading the report for other programs.  Each line is one value of JSON, so the lines can be told
apart and decoded one by one; what a line is decoded to is all that happened to its script.
-/

namespace Conformance

namespace Json

open NumberState

/-! ### Numbers that are written -/

theorem after?_start {c : Char} {t : Text} (hc : c ≠ '0') (ht : ∀ d ∈ c :: t, d.isDigit = true) :
    start.after? (c :: t) = some whole := by
  have hdigit := ht c List.mem_cons_self
  have hsign : c ≠ '-' := by
    rintro rfl
    cases hdigit
  have hfirst : start.next? c = some whole := by
    simp [next?, leading?, hsign, hc, hdigit]
  rw [after?_cons, hfirst]
  apply after?_digits
  · intro d hd
    simp [next?, digit?, hd]
  · intro d hd
    exact ht d (List.mem_cons_of_mem c hd)

/-- Digits behind a point. -/
theorem after?_point {s : NumberState} {t back : Text} (ht : start.after? t = some s)
    (hs : s.next? '.' = some point) (hne : back ≠ []) (hback : ∀ d ∈ back, d.isDigit = true) :
    start.after? (t ++ '.' :: back) = some fraction := by
  have hfraction : point.after? back = some fraction := by
    apply after?_digits_of_ne_nil _ _ hne hback
    · intro d hd
      simp [next?, digit?, hd]
    · intro d hd
      simp [next?, digit?, hd]
  apply after?_append ht
  rw [after?_cons, hs]
  exact hfraction

/-- Digits behind the sign of an exponent. -/
theorem after?_signed_ofNat (n : Nat) : exponentSign.after? (Numeral.ofNat n) = some exponent := by
  have hdenotes := Numeral.denotes_ofNat n
  apply after?_digits_of_ne_nil _ _ hdenotes.ne_nil hdenotes.isDigit
  · intro d hd
    simp [next?, digit?, hd]
  · intro d hd
    simp [next?, digit?, hd]

/-- An exponent has either sign. -/
theorem after?_mark (p : Int) :
    mark.after? ((if p > 0 then ['+'] else []) ++ Numeral.ofInt (p - 1)) = some exponent := by
  split
  · next hpos =>
      obtain ⟨n, hn⟩ := Int.eq_ofNat_of_zero_le (show 0 ≤ p - 1 by omega)
      rw [hn]
      exact after?_signed_ofNat n
  · next hpos =>
      obtain ⟨n, hn⟩ := Int.eq_negSucc_of_lt_zero (show p - 1 < 0 by omega)
      rw [hn]
      exact after?_signed_ofNat (n + 1)

theorem isNumber_ofNat (n : Nat) : IsNumber (Numeral.ofNat n) := by
  right
  rcases Nat.eq_zero_or_pos n with rfl | hn
  · exact ⟨zero, rfl, rfl⟩
  · obtain ⟨c, rest, hdigits, hc⟩ := Decimal.ofNat_first hn
    have hall := (Numeral.denotes_ofNat n).isDigit
    rw [hdigits] at hall ⊢
    exact ⟨whole, after?_start hc hall, rfl⟩

/-- Digits that are placed are a number, wherever their point is. -/
theorem isNumber_placeDigits {d : Decimal.Digits} (h : d.IsNormal) :
    IsNumber (Report.placeDigits d) := by
  obtain ⟨digits, p⟩ := d
  obtain ⟨hdigit, c, rest, hdigits, hc⟩ := h
  dsimp only at hdigit hdigits
  subst hdigits
  have hzeros : ∀ n, ∀ d ∈ List.replicate n '0', d.isDigit = true := by
    intro n d hd
    rw [List.eq_of_mem_replicate hd]
    rfl
  unfold Report.placeDigits
  dsimp only
  right
  split
  · split
    · -- All digits stand before the point, maybe with zeros behind them.
      have hwhole : start.after?
          (c :: (rest ++ List.replicate (p - (c :: rest).length).toNat '0')) = some whole := by
        apply after?_start hc
        intro d hd
        rw [← List.cons_append, List.mem_append] at hd
        rcases hd with hd | hd
        · exact hdigit d hd
        · exact hzeros _ d hd
      have hzero : ∀ d ∈ ['0'], d.isDigit = true := hzeros 1
      exact ⟨fraction, after?_point hwhole rfl (List.cons_ne_nil _ _) hzero, rfl⟩
    · -- The point stands between two digits.
      next hinside hlength =>
      rw [List.length_cons] at hlength
      obtain ⟨k, hk⟩ : ∃ k, p.toNat = k + 1 := Nat.exists_eq_succ_of_ne_zero (by omega)
      have hwhole : start.after? (c :: rest.take k) = some whole := by
        apply after?_start hc
        intro d hd
        rw [← List.take_succ_cons] at hd
        exact hdigit d (List.mem_of_mem_take hd)
      rw [hk]
      refine ⟨fraction, after?_point hwhole rfl ?_ ?_, rfl⟩
      · rw [List.drop_succ_cons, ne_eq, List.drop_eq_nil_iff]
        omega
      · intro d hd
        exact hdigit d (List.mem_of_mem_drop hd)
  · split
    · -- All digits stand behind the point, maybe with zeros before them.
      have hzero : start.after? ['0'] = some zero := rfl
      have hall : ∀ d ∈ List.replicate (-p).toNat '0' ++ c :: rest, d.isDigit = true := by
        intro d hd
        rcases List.mem_append.1 hd with hd | hd
        · exact hzeros _ d hd
        · exact hdigit d hd
      exact ⟨fraction, after?_point hzero rfl (by simp) hall, rfl⟩
    · -- One digit stands before the point, and an exponent follows.
      have hfirst : start.after? [c] = some whole := by
        apply after?_start hc
        intro d hd
        exact hdigit d (List.mem_cons.2 (.inl (List.mem_singleton.1 hd)))
      obtain ⟨s, hs, hmark⟩ : ∃ s,
          start.after? ([c] ++ if (c :: rest).length ≤ 1 then [] else '.' :: rest) = some s ∧
            s.next? 'e' = some mark := by
        split
        · exact ⟨whole, hfirst, rfl⟩
        · next hlength =>
          refine ⟨fraction, after?_point hfirst rfl ?_ ?_, rfl⟩
          · rintro rfl
            exact hlength (Nat.le_refl 1)
          · intro d hd
            exact hdigit d (List.mem_cons_of_mem c hd)
      have hback : s.after? ('e' :: ((if p > 0 then ['+'] else []) ++ Numeral.ofInt (p - 1))) =
          some exponent := by
        rw [after?_cons, hmark]
        exact after?_mark p
      refine ⟨exponent, ?_, rfl⟩
      have hall := after?_append hs hback
      simpa using hall

/-- Every floating-point number is written as a number, or as the word for none. -/
theorem isNumber_number (x : Float) : IsNumber (Report.number x) := by
  unfold Report.number
  cases hmagnitude : Decimal.magnitude x with
  | notANumber => exact .inl rfl
  | infinite => exact .inl rfl
  | finite m e =>
      obtain ⟨hmax, he⟩ := Decimal.magnitude_eq_finite hmagnitude
      cases m with
      | zero => exact .inr ⟨fraction, rfl, rfl⟩
      | succ m => exact isNumber_placeDigits (Decimal.shortest_isNormal (Nat.succ_pos m) hmax he)

end Json

namespace Report.JsonLines

/-! ### Reading the lines -/

/-- What a line tells about a script. -/
inductive Told where
  | passed
  | failed (findings : List Finding)
  | skipped
  | invalid (error : Text)
deriving DecidableEq, Repr

/-- What is told about an outcome; of a contradiction, only the message. -/
def Told.of : Outcome → Told
  | .passed => .passed
  | .failed findings => .failed findings
  | .skipped => .skipped
  | .invalid _ => .invalid Contradiction.message

/-- The members of an object that has members of these names and no others, in any order. -/
def members? (names : List Text) : Json → Option (List (Text × Json))
  | .object members => if (members.map Prod.fst).isPerm names then some members else none
  | _ => none

def text? : Json → Option Text
  | .text t => some t
  | _ => none

def list? {α : Type} (item? : Json → Option α) : Json → Option (List α)
  | .list items => items.mapM item?
  | _ => none

def count? : Json → Option Nat
  | .number written => Numeral.value? written
  | _ => none

def finding? (v : Json) : Option Finding := do
  let members ← members? ["message".toList, "details".toList] v
  let message ← text? (← members.lookup "message".toList)
  let details ← list? text? (← members.lookup "details".toList)
  return ⟨message, details⟩

/-- Reads what a script's object tells besides its path, under the status that it has. -/
def told? (status : Text) (v : Json) : Option Told := do
  let names := ["path".toList, "status".toList]
  if status = "passed".toList then
    let _ ← members? names v
    return .passed
  else if status = "failed".toList then
    let members ← members? ("failures".toList :: names) v
    return .failed (← list? finding? (← members.lookup "failures".toList))
  else if status = "skipped".toList then
    let _ ← members? names v
    return .skipped
  else if status = "invalid".toList then
    let members ← members? ("error".toList :: names) v
    return .invalid (← text? (← members.lookup "error".toList))
  else none

def file? (v : Json) : Option (Path × Told) :=
  match v with
  | .object members => do
      let path ← text? (← members.lookup "path".toList)
      let status ← text? (← members.lookup "status".toList)
      return (path, ← told? status v)
  | _ => none

/-- Reads the totals; the members beside them may hold anything. -/
def summary? (v : Json) : Option Tally := do
  let members ← members? ["summary".toList, "duration_secs".toList, "version".toList] v
  let counts ← members? ["passed".toList, "failed".toList, "skipped".toList, "invalid".toList,
    "expectations".toList] (← members.lookup "summary".toList)
  return {
    passed := ← count? (← counts.lookup "passed".toList)
    failed := ← count? (← counts.lookup "failed".toList)
    skipped := ← count? (← counts.lookup "skipped".toList)
    invalid := ← count? (← counts.lookup "invalid".toList)
    expectations := ← count? (← counts.lookup "expectations".toList) }

theorem list?_map {α : Type} {item? : Json → Option α} (write : α → Json)
    (h : ∀ a, item? (write a) = some a) (items : List α) :
    list? item? (.list (items.map write)) = some items := by
  unfold list?
  induction items with
  | nil => rfl
  | cons a items ih => simp [List.mapM_cons, h, ih]

theorem finding?_finding (f : Finding) : finding? (finding f) = some f := by
  have hdetails : list? text? (.list (f.details.map Json.text)) = some f.details :=
    list?_map Json.text (fun _ => rfl) f.details
  change ((list? text? (.list (f.details.map Json.text))).bind
    fun details => some (Finding.mk f.message details)) = _
  rw [hdetails]
  rfl

theorem file?_file (path : Path) (o : Outcome) : file? (file path o) = some (path, .of o) := by
  cases o with
  | passed => rfl
  | skipped => rfl
  | invalid c => rfl
  | failed findings =>
      have hfindings : list? finding? (.list (findings.map finding)) = some findings :=
        list?_map finding finding?_finding findings
      change ((list? finding? (.list (findings.map finding))).bind _).bind _ = _
      rw [hfindings]
      rfl

theorem count?_count (n : Nat) : count? (count n) = some n :=
  Numeral.value?_ofNat n

theorem summary?_summary (t : Tally) (elapsed : Duration) :
    summary? (summary t elapsed) = some t := by
  change ((count? (count t.passed)).bind fun passed => (count? (count t.failed)).bind fun failed =>
    (count? (count t.skipped)).bind fun skipped => (count? (count t.invalid)).bind fun invalid =>
      (count? (count t.expectations)).bind fun expectations =>
        some (Tally.mk passed failed skipped invalid expectations)) = _
  simp only [count?_count, Option.bind_some]

/-! ### Values that are written -/

theorem wellFormed_finding (f : Finding) : (finding f).WellFormed := by
  apply Json.WellFormed.object
  intro member hmember
  rcases List.mem_pair.1 hmember with rfl | rfl
  · apply Json.WellFormed.list
    intro item hitem
    obtain ⟨line, -, rfl⟩ := List.mem_map.1 hitem
    exact .text line
  · exact .text f.message

theorem wellFormed_file (path : Path) (o : Outcome) : (file path o).WellFormed := by
  have hrest : ∀ member ∈ [("path".toList, Json.text path), ("status".toList, .text o.status)],
      member.2.WellFormed := by
    intro member hmember
    rcases List.mem_pair.1 hmember with rfl | rfl
    · exact .text path
    · exact .text o.status
  cases o with
  | passed => exact .object hrest
  | skipped => exact .object hrest
  | invalid c => exact .object (List.forall_mem_cons.2 ⟨.text _, hrest⟩)
  | failed findings =>
      refine .object (List.forall_mem_cons.2 ⟨.list ?_, hrest⟩)
      intro item hitem
      obtain ⟨f, -, rfl⟩ := List.mem_map.1 hitem
      exact wellFormed_finding f

theorem wellFormed_summary (t : Tally) (elapsed : Duration) : (summary t elapsed).WellFormed := by
  have hcount : ∀ n, (count n).WellFormed := fun n => .number (Json.isNumber_ofNat n)
  apply Json.WellFormed.object
  intro member hmember
  simp only [List.mem_cons, List.not_mem_nil, or_false] at hmember
  rcases hmember with rfl | rfl | rfl
  · exact .number (Json.isNumber_number _)
  · apply Json.WellFormed.object
    intro member hmember
    simp only [List.mem_cons, List.not_mem_nil, or_false] at hmember
    rcases hmember with rfl | rfl | rfl | rfl | rfl <;> exact hcount _
  · exact .text version

/-! ### Reading the report -/

def readFile? (line : Text) : Option (Path × Told) :=
  (Json.decode? line).bind file?

def readSummary? (line : Text) : Option Tally :=
  (Json.decode? line).bind summary?

/-- The events of scripts that have an outcome, and of the end of their suite. -/
def completed (files : List (Path × Outcome × Tally)) (t : Tally) (elapsed : Duration) :
    List Event :=
  files.map (fun (path, outcome, tally) => .fileComplete path outcome tally) ++
    [.suiteComplete t elapsed]

theorem text_completed (files : List (Path × Outcome × Tally)) (t : Tally) (elapsed : Duration) :
    Report.text report (completed files t elapsed) =
      Text.ofLines
        (files.map (fun f => (file f.1 f.2.1).render) ++ [(summary t elapsed).render]) := by
  induction files with
  | nil => simp [completed, Report.text, Text.ofLines, report, line]
  | cons f files ih =>
      have hcompleted : completed (f :: files) t elapsed =
          .fileComplete f.1 f.2.1 f.2.2 :: completed files t elapsed := rfl
      rw [hcompleted, Report.text_cons, ih]
      simp [report, line, Text.ofLines]

/-- The report of scripts with any paths and any outcomes can be read back.  It has one line for
each script in their order and one for the totals, no text can break a line, and every line is
decoded to all that was reported. -/
theorem read_report (files : List (Path × Outcome × Tally)) (t : Tally) (elapsed : Duration) :
    ∃ lines last,
      lines.map readFile? = files.map (fun f => some (f.1, .of f.2.1)) ∧
      readSummary? last = some t ∧
      (∃ s, Along (Suite.Handles (Report.reporter report)) {} (completed files t elapsed) s) ∧
      ∀ limit s, Along (Suite.Handles (Report.reporter report)) { limit := limit }
        (completed files t elapsed) s → pieces '\n' s.text = lines ++ [last, []] := by
  refine ⟨files.map fun f => (file f.1 f.2.1).render, (summary t elapsed).render, ?_, ?_,
    Suite.willing_of_unlimited report rfl _, ?_⟩
  · rw [List.map_map]
    apply List.map_congr_left
    intro f _
    simp [readFile?, Json.decode?_render (wellFormed_file _ _), file?_file]
  · simp [readSummary?, Json.decode?_render (wellFormed_summary _ _), summary?_summary]
  · intro limit s hs
    have hlines : ∀ line ∈ files.map (fun f => (file f.1 f.2.1).render) ++
        [(summary t elapsed).render], '\n' ∉ line := by
      intro line hline
      rcases List.mem_append.1 hline with hline | hline
      · obtain ⟨f, -, rfl⟩ := List.mem_map.1 hline
        exact (wellFormed_file _ _).not_mem_render
      · rw [List.mem_singleton.1 hline]
        exact (wellFormed_summary _ _).not_mem_render
    rw [Suite.text_of_handled hs rfl, text_completed, pieces_ofLines hlines]
    simp

end Report.JsonLines

end Conformance
