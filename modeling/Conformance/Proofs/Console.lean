import Conformance.Proofs.Finding
import Conformance.Proofs.Report
import Conformance.Report.Console

/-!
Reading the report for a terminal.  Without colours and progress its lines say which scripts failed
and which contradict themselves, in the order of the run, and no text that a script or its
interpreter writes can pretend to be such a line.
-/

namespace Conformance.Report.Console

/-- Does the report name a script with this outcome? -/
def shows (c : Console) : Outcome → Bool
  | .failed _ => true
  | .invalid _ => true
  | _ => c.progress

def entry (path : Path) : Outcome → List Text
  | .passed => []
  | .skipped => []
  | .failed findings =>
      ("FAIL ".toList ++ path) ::
        findings.flatMap fun f => (f.message :: f.details).map ("     ".toList ++ ·)
  | .invalid _ =>
      ["TEST_ERROR ".toList ++ path, "     ".toList ++ Contradiction.message,
        "     help: ".toList ++ Contradiction.help, []]

def allPassedLine (passed expectations : Nat) : Text :=
  "All ".toList ++ Numeral.ofNat passed ++ " tests passed (".toList ++
    Numeral.ofNat expectations ++ " expectations).".toList

def someFailedLine (passed failed expectations : Nat) : Text :=
  Numeral.ofNat passed ++ " tests passed. ".toList ++ Numeral.ofNat failed ++
    " tests failed (".toList ++ Numeral.ofNat expectations ++ " expectations).".toList

def lastLine (t : Tally) : Text :=
  if t.failed = 0 then allPassedLine t.passed t.expectations
  else someFailedLine t.passed t.failed t.expectations

/-! ### The lines of the plain report -/

theorem ofLines_append (front back : List Text) :
    Text.ofLines (front ++ back) = Text.ofLines front ++ Text.ofLines back := by
  simp [Text.ofLines]

theorem flatten_listing (path : Path) (o : Outcome) :
    (listing {} path o).flatten = Text.ofLines (entry path o) := by
  cases o with
  | passed => rfl
  | skipped => rfl
  | invalid c => rfl
  | failed findings =>
      have hlines : ((findings.flatMap Finding.lines).map indented).flatten =
          Text.ofLines (findings.flatMap fun f => f.lines.map ("     ".toList ++ ·)) := by
        simp only [Text.ofLines, List.flatten_eq_flatMap, List.flatMap_map, List.flatMap_assoc]
        rfl
      change heading "FAIL".toList path ++
        ((findings.flatMap Finding.lines).map indented).flatten = _
      rw [hlines]
      rfl

@[simp] theorem paint_plain (color : Color) (text : Text) : paint {} color text = text :=
  if_neg Bool.false_ne_true

theorem flatten_summary (t : Tally) : summary {} t = Text.ofLines [lastLine t] := by
  have hend : " expectations).\n".toList = " expectations).".toList ++ ['\n'] := rfl
  have hpassed : " tests passed (".toList = " tests passed".toList ++ " (".toList := rfl
  have hfailed : " tests failed (".toList = " tests failed".toList ++ " (".toList := rfl
  have hlines : Text.ofLines [lastLine t] = lastLine t ++ ['\n'] := List.append_nil _
  unfold summary Tally.allPassed
  rw [hlines, lastLine, hend]
  simp only [decide_eq_true_eq, paint_plain]
  split
  · unfold allPassedLine
    rw [hpassed]
    simp only [List.append_assoc]
  · unfold someFailedLine
    rw [hfailed]
    simp only [List.append_assoc]

open Suite

theorem text_fileEvents (o : CheckOptions) (t : Tally) (visits : List Visit) :
    Report.text (report {}) (fileEvents o t visits) =
      Text.ofLines ((visits.map (Visit.completed o)).flatMap fun f => entry f.1 f.2) := by
  induction visits generalizing t with
  | nil => rfl
  | cons v visits ih =>
      rw [fileEvents, Report.text_cons, Report.text_cons, ih, List.map_cons, List.flatMap_cons,
        ofLines_append, ← flatten_listing]
      rfl

theorem text_events (o : CheckOptions) (elapsed : Duration) (visits : List Visit) :
    Report.text (report {}) (events o elapsed visits) =
      Text.ofLines ((visits.map (Visit.completed o)).flatMap (fun f => entry f.1 f.2) ++
        [lastLine (totals o visits)]) := by
  have hlast : Report.text (report {}) [.suiteComplete (totals o visits) elapsed] =
      summary {} (totals o visits) := by
    rw [Report.text_cons]
    exact (List.append_nil _).trans (List.append_nil _)
  rw [events, List.cons_append, Report.text_cons, Report.text_append, text_fileEvents, hlast,
    ofLines_append, flatten_summary]
  rfl

/-! ### Lines that name a script -/

def starts (word line : Text) : Bool :=
  word.isPrefixOf line

theorem starts_eq_false {c : Char} {line : Text} (h : line.head? ≠ some c) (word : Text) :
    starts (c :: word) line = false := by
  cases line with
  | nil => rfl
  | cons d line =>
      have hne : c ≠ d := by
        rintro rfl
        exact h rfl
      simp [starts, List.isPrefixOf, hne]

theorem exists_head?_ofNat (n : Nat) :
    ∃ c, (Numeral.ofNat n).head? = some c ∧ c.isDigit = true := by
  have hdenotes := Numeral.denotes_ofNat n
  obtain ⟨c, rest, hdigits⟩ := List.exists_cons_of_ne_nil hdenotes.ne_nil
  exact ⟨c, by rw [hdigits]; rfl, hdenotes.isDigit c (by rw [hdigits]; exact List.mem_cons_self)⟩

/-- If scripts failed, the last line starts with a digit. -/
theorem exists_head?_someFailedLine (passed failed expectations : Nat) :
    ∃ c, (someFailedLine passed failed expectations).head? = some c ∧ c.isDigit = true := by
  obtain ⟨c, hfirst, hc⟩ := exists_head?_ofNat passed
  refine ⟨c, ?_, hc⟩
  unfold someFailedLine
  simp [List.head?_append, hfirst]

theorem starts_lastLine {c : Char} (hdigit : c.isDigit = false) (hletter : c ≠ 'A') (word : Text)
    (t : Tally) : starts (c :: word) (lastLine t) = false := by
  apply starts_eq_false
  unfold lastLine
  split
  · rintro ⟨⟩
    exact hletter rfl
  · obtain ⟨d, hfirst, hd⟩ := exists_head?_someFailedLine t.passed t.failed t.expectations
    rw [hfirst]
    rintro ⟨⟩
    rw [hd] at hdigit
    cases hdigit

/-- The last line tells whether scripts failed. -/
theorem exists_allPassedLine_iff (t : Tally) :
    (∃ passed expectations, lastLine t = allPassedLine passed expectations) ↔ t.failed = 0 := by
  constructor
  · rintro ⟨passed, expectations, hline⟩
    by_contra hfailed
    obtain ⟨c, hfirst, hc⟩ := exists_head?_someFailedLine t.passed t.failed t.expectations
    rw [lastLine, if_neg hfailed] at hline
    rw [hline] at hfirst
    cases hfirst
    cases hc
  · intro hfailed
    exact ⟨t.passed, t.expectations, if_pos hfailed⟩

/-- The path of a script that failed. -/
def failed? : Path × Outcome → Option Path
  | (path, .failed _) => some path
  | _ => none

/-- The path of a script that contradicts itself. -/
def invalid? : Path × Outcome → Option Path
  | (path, .invalid _) => some path
  | _ => none

/-- No line below a heading starts with a word. -/
theorem filter_starts_indented {c : Char} (h : c ≠ ' ') (word : Text) (findings : List Finding) :
    (findings.flatMap fun f => (f.message :: f.details).map ("     ".toList ++ ·)).filter
      (starts (c :: word)) = [] := by
  rw [List.filter_eq_nil_iff]
  intro line hline
  obtain ⟨f, -, hline⟩ := List.mem_flatMap.1 hline
  obtain ⟨text, -, rfl⟩ := List.mem_map.1 hline
  rw [starts_eq_false]
  · decide
  · rintro ⟨⟩
    exact h rfl

theorem filter_fail_entry (path : Path) (o : Outcome) :
    (entry path o).filter (starts "FAIL ".toList) =
      (failed? (path, o)).toList.map ("FAIL ".toList ++ ·) := by
  cases o with
  | passed => rfl
  | skipped => rfl
  | invalid c => rfl
  | failed findings =>
      have hbelow := filter_starts_indented (c := 'F') (by decide) "AIL ".toList findings
      change (("FAIL ".toList ++ path) :: _).filter _ = _
      rw [List.filter_cons_of_pos]
      · exact congrArg _ hbelow
      · rfl

theorem filter_error_entry (path : Path) (o : Outcome) :
    (entry path o).filter (starts "TEST_ERROR ".toList) =
      (invalid? (path, o)).toList.map ("TEST_ERROR ".toList ++ ·) := by
  cases o with
  | passed => rfl
  | skipped => rfl
  | invalid c => rfl
  | failed findings =>
      have hbelow := filter_starts_indented (c := 'T') (by decide) "EST_ERROR ".toList findings
      change (("FAIL ".toList ++ path) :: _).filter _ = _
      rw [List.filter_cons_of_neg]
      · exact hbelow
      · exact Bool.eq_false_iff.1 rfl

/-! ### Lines without control characters -/

/-- A text of printable characters holds no control character. -/
theorem not_mem_of_printable {c : Char} (hc : c.toNat < 0x20) {t : Text}
    (ht : (t.all fun d => 0x20 ≤ d.toNat) = true) : c ∉ t := by
  intro hmem
  have hprintable := of_decide_eq_true (List.all_eq_true.1 ht c hmem)
  omega

theorem not_mem_ofNat_of_control {c : Char} (hc : c.toNat < 0x20) (n : Nat) :
    c ∉ Numeral.ofNat n := by
  intro hmem
  have hdigit := (Numeral.denotes_ofNat n).isDigit c hmem
  simp only [Char.isDigit, Bool.and_eq_true, decide_eq_true_eq] at hdigit
  have hlow : 0x30 ≤ c.toNat := hdigit.1
  omega

theorem not_mem_lastLine {c : Char} (hc : c.toNat < 0x20) (t : Tally) : c ∉ lastLine t := by
  have hnumeral := not_mem_ofNat_of_control hc
  have hall : c ∉ "All ".toList := not_mem_of_printable hc (by decide)
  have hopen : c ∉ " tests passed (".toList := not_mem_of_printable hc (by decide)
  have hpassed : c ∉ " tests passed. ".toList := not_mem_of_printable hc (by decide)
  have hfailed : c ∉ " tests failed (".toList := not_mem_of_printable hc (by decide)
  have hclose : c ∉ " expectations).".toList := not_mem_of_printable hc (by decide)
  unfold lastLine
  split
  · unfold allPassedLine
    simp only [List.mem_append, hnumeral, hall, hopen, hclose, or_false, not_false_eq_true]
  · unfold someFailedLine
    simp only [List.mem_append, hnumeral, hpassed, hfailed, hclose, or_false, not_false_eq_true]

/-- The lines for a script hold a control character only if its path or its findings do. -/
theorem not_mem_entry {c : Char} (hc : c.toNat < 0x20) {path : Path} {o : Outcome}
    (hpath : shows {} o = true → c ∉ path)
    (hfindings : ∀ f ∈ o.findings, ∀ line ∈ f.lines, c ∉ line) :
    ∀ line ∈ entry path o, c ∉ line := by
  intro line hline
  cases o with
  | passed => cases hline
  | skipped => cases hline
  | invalid _ =>
      have hfixed : ∀ line ∈ ["     ".toList ++ Contradiction.message,
          "     help: ".toList ++ Contradiction.help, []],
          (line.all fun d => 0x20 ≤ d.toNat) = true := by decide
      rcases List.mem_cons.1 hline with rfl | hline
      · exact List.not_mem_append (not_mem_of_printable hc (by decide)) (hpath rfl)
      · exact not_mem_of_printable hc (hfixed line hline)
  | failed findings =>
      rcases List.mem_cons.1 hline with rfl | hline
      · exact List.not_mem_append (not_mem_of_printable hc (by decide)) (hpath rfl)
      · obtain ⟨f, hf, hline⟩ := List.mem_flatMap.1 hline
        obtain ⟨text, htext, rfl⟩ := List.mem_map.1 hline
        exact List.not_mem_append (not_mem_of_printable hc (by decide)) (hfindings f hf text htext)

/-- No finding about a script that was met has a line feed in its lines. -/
theorem not_mem_lines_of_visited {ω : Type} {world : World ω} {interpreter : Path} {w w' : ω}
    {v : Visit} (h : Visited world interpreter w v w') (o : CheckOptions) :
    ∀ f ∈ (v.outcome o).findings, ∀ line ∈ f.lines, '\n' ∉ line := by
  intro f hf
  cases h with
  | excluded _ _ => cases hf
  | contradictory _ _ => cases hf
  | tested _ hreading _ =>
      rw [findings_outcome_tested] at hf
      obtain ⟨d, hd, rfl⟩ := List.mem_map.1 hf
      exact (onLines_of_mem_check (Script.onLines_of_read hreading) hd).lines

/-! ### Reading a whole report -/

/-- The lines that start with a word, if it is a word of headings and of nothing else. -/
theorem filter_lines {c : Char} {word : Text} {named? : Path × Outcome → Option Path}
    (hdigit : c.isDigit = false) (hletter : c ≠ 'A')
    (hentry : ∀ path o, (entry path o).filter (starts (c :: word)) =
      (named? (path, o)).toList.map ((c :: word) ++ ·))
    (files : List (Path × Outcome)) (t : Tally) :
    (files.flatMap (fun f => entry f.1 f.2) ++ [lastLine t, []]).filter (starts (c :: word)) =
      (files.filterMap named?).map ((c :: word) ++ ·) := by
  induction files with
  | nil =>
      have hempty : starts (c :: word) [] = false := rfl
      simp [starts_lastLine hdigit hletter, hempty]
  | cons f files ih =>
      rw [List.flatMap_cons, List.append_assoc, List.filter_append, hentry, ih]
      cases hnamed : named? f with
      | none => simp [hnamed]
      | some path => simp [hnamed]

/-- As many scripts are named as have an outcome of the bucket. -/
theorem length_named {named? : Path × Outcome → Option Path} {bucket : Outcome → Bool}
    (h : ∀ path o, (named? (path, o)).isSome = bucket o) (o : CheckOptions)
    (visits : List Visit) :
    ((visits.map (Visit.completed o)).filterMap named?).length =
      (visits.map (Visit.outcome o)).countP bucket := by
  rw [List.length_filterMap_eq_countP, List.countP_map, List.countP_map]
  apply List.countP_congr
  intro v _
  simp [Visit.completed, h]

theorem isSome_failed? (path : Path) (o : Outcome) : (failed? (path, o)).isSome = o.isFailed := by
  cases o <;> rfl

theorem isSome_invalid? (path : Path) (o : Outcome) :
    (invalid? (path, o)).isSome = o.isInvalid := by
  cases o <;> rfl

/-- The report without colours and progress can be read back.  Its lines are those of the scripts in
the order in which they were found, and a last line.  A line that starts with the word for a failed
script names one, and each failed script has one such line; the same holds for scripts that
contradict themselves.  The last line says that all tests passed exactly if no script failed. -/
theorem plain_report_names_failures {ω : Type} {settings : Settings} {world : World ω} {start : ω}
    {elapsed : Duration} {limit : Option Nat} {t : Tally} {s : Session Sink ω}
    (hrun : run settings world (Report.reporter (report {})) { limit := limit } start elapsed =
      .ok t s)
    (hpaths : ∀ f ∈ s.outcomes, shows {} f.2 = true → '\n' ∉ f.1) :
    let lines := pieces '\n' s.reporter.text
    world.scripts start settings.root = .ok (s.outcomes.map Prod.fst) ∧
      lines = s.outcomes.flatMap (fun f => entry f.1 f.2) ++ [lastLine t, []] ∧
      lines.filter (starts "FAIL ".toList) =
        (s.outcomes.filterMap failed?).map ("FAIL ".toList ++ ·) ∧
      (lines.filter (starts "FAIL ".toList)).length = t.failed ∧
      lines.filter (starts "TEST_ERROR ".toList) =
        (s.outcomes.filterMap invalid?).map ("TEST_ERROR ".toList ++ ·) ∧
      (lines.filter (starts "TEST_ERROR ".toList)).length = t.invalid ∧
      ((∃ passed expectations, lastLine t = allPassedLine passed expectations) ↔ t.failed = 0) := by
  obtain ⟨visits, state', after, hunfailing, rfl, rfl⟩ := run_eq_ok_iff.1 hrun
  rw [outcomes_of_trace] at hpaths ⊢
  have hlines : ∀ line ∈ (visits.map (Visit.completed settings.check)).flatMap
      (fun f => entry f.1 f.2) ++ [lastLine (totals settings.check visits)], '\n' ∉ line := by
    intro line hline
    rcases List.mem_append.1 hline with hline | hline
    · obtain ⟨f, hf, hline⟩ := List.mem_flatMap.1 hline
      obtain ⟨v, hv, rfl⟩ := List.mem_map.1 hf
      obtain ⟨w, w', hvisited⟩ := exists_step_of_along hunfailing.visited v hv
      exact not_mem_entry (by decide) (hpaths _ hf) (not_mem_lines_of_visited hvisited _) line hline
    · rw [List.mem_singleton.1 hline]
      exact not_mem_lastLine (by decide) _
  have htext : pieces '\n' state'.text = (visits.map (Visit.completed settings.check)).flatMap
      (fun f => entry f.1 f.2) ++ [lastLine (totals settings.check visits), []] := by
    rw [text_of_handled hunfailing.handled rfl, text_events, pieces_ofLines hlines,
      List.append_assoc]
    rfl
  have hfail : (pieces '\n' state'.text).filter (starts "FAIL ".toList) =
      ((visits.map (Visit.completed settings.check)).filterMap failed?).map
        ("FAIL ".toList ++ ·) := by
    rw [htext]
    exact filter_lines (c := 'F') rfl (by decide) filter_fail_entry _ _
  have herror : (pieces '\n' state'.text).filter (starts "TEST_ERROR ".toList) =
      ((visits.map (Visit.completed settings.check)).filterMap invalid?).map
        ("TEST_ERROR ".toList ++ ·) := by
    rw [htext]
    exact filter_lines (c := 'T') rfl (by decide) filter_error_entry _ _
  refine ⟨?_, htext, hfail, ?_, herror, ?_, ?_⟩
  · rw [hunfailing.found, List.map_map]
    rfl
  · rw [hfail, List.length_map, length_named isSome_failed?, failed_totals]
  · rw [herror, List.length_map, length_named isSome_invalid?, invalid_totals]
  · exact exists_allPassedLine_iff _

theorem plain_report_names_failures_small :
    ∃ s, run smallSettings smallWorld (Report.reporter (report {})) {} 0 {} =
        .ok ⟨2, 1, 1, 1, 4⟩ s ∧
      (∀ f ∈ s.outcomes, shows {} f.2 = true → '\n' ∉ f.1) ∧
      pieces '\n' s.reporter.text =
        ["TEST_ERROR c".toList, "     Cannot expect both compile and runtime errors.".toList,
          ("     help: split the compile-error and runtime-error cases " ++
            "into separate test files").toList, [],
          "FAIL d".toList, "     Expected output '2' on line 1 and got '1'.".toList,
          "2 tests passed. 1 tests failed (4 expectations).".toList, []] := by
  obtain ⟨s, hrun, houtcomes⟩ := exists_run_small (report {})
  have hpaths : ∀ f ∈ smallVisits.map (Visit.completed {}), shows {} f.2 = true → '\n' ∉ f.1 := by
    decide +kernel
  rw [← houtcomes] at hpaths
  obtain ⟨-, hlines, -⟩ := plain_report_names_failures hrun hpaths
  refine ⟨s, hrun, hpaths, ?_⟩
  rw [hlines, houtcomes]
  decide +kernel

end Conformance.Report.Console
