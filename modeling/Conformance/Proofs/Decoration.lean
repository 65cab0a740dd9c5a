import Conformance.Proofs.Console

/-!
Colours and progress are decoration.  Without its colour sequences, and with every clear sequence
carried out, a report for a terminal is the plain one: each progress line is erased before lasting
text is written, and no lasting text is ever erased.
-/

namespace Conformance.Report.Console

/-! ### Colour sequences -/

/-- What stands behind the colour sequence that a text starts with. -/
def afterColor? (t : Text) : Option Text := do
  let t ← Text.after? ['\x1b', '['] t
  match t.dropWhile fun c => c.isDigit || c = ';' with
  | 'm' :: rest => some rest
  | _ => none

theorem length_lt_of_afterColor? {t rest : Text} (h : afterColor? t = some rest) :
    rest.length < t.length := by
  unfold afterColor? at h
  rw [Option.bind_eq_bind, Option.bind_eq_some_iff] at h
  obtain ⟨more, hmore, hrest⟩ := h
  rw [Text.after?_eq_some_iff] at hmore
  have hle := (List.dropWhile_sublist (fun c => c.isDigit || c = ';') (l := more)).length_le
  split at hrest
  · next hdrop =>
      cases hrest
      rw [hdrop] at hle
      rw [hmore]
      simp at hle ⊢
      omega
  · cases hrest

def uncolored : Text → Text
  | [] => []
  | c :: t =>
      match _h : afterColor? (c :: t) with
      | some rest => uncolored rest
      | none => c :: uncolored t
termination_by t => t.length
decreasing_by
  · exact length_lt_of_afterColor? ‹_›
  · exact Nat.lt_succ_self t.length

theorem uncolored_of_afterColor? {t rest : Text} (h : afterColor? t = some rest) :
    uncolored t = uncolored rest := by
  cases t with
  | nil => cases h
  | cons c t =>
      rw [uncolored]
      split
      · next h' =>
          rw [h'] at h
          cases h
          rfl
      · next h' =>
          rw [h'] at h
          cases h

theorem uncolored_cons {c : Char} {t : Text} (h : afterColor? (c :: t) = none) :
    uncolored (c :: t) = c :: uncolored t := by
  rw [uncolored]
  split
  · next h' =>
      rw [h'] at h
      cases h
  · rfl

/-- Only an escape character starts a colour sequence. -/
theorem afterColor?_cons_of_ne {c : Char} (h : c ≠ '\x1b') (t : Text) :
    afterColor? (c :: t) = none := by
  have hnone : Text.after? ['\x1b', '['] (c :: t) = none := by
    cases hafter : Text.after? ['\x1b', '['] (c :: t) with
    | none => rfl
    | some rest =>
        rw [Text.after?_eq_some_iff] at hafter
        exact absurd (List.cons.inj hafter).1 h
  rw [afterColor?, hnone]
  rfl

/-- Without colour sequences the first text is the second one, whatever follows. -/
def Fades (a b : Text) : Prop :=
  ∀ t, uncolored (a ++ t) = b ++ uncolored t

theorem Fades.append {a a' b b' : Text} (h : Fades a b) (h' : Fades a' b') :
    Fades (a ++ a') (b ++ b') := by
  intro t
  rw [List.append_assoc, h, h', List.append_assoc]

theorem fades_of_not_mem {a : Text} (h : '\x1b' ∉ a) : Fades a a := by
  intro t
  induction a with
  | nil => rfl
  | cons c a ih =>
      rw [List.mem_cons, not_or] at h
      rw [List.cons_append, uncolored_cons (afterColor?_cons_of_ne (Ne.symm h.1) _), ih h.2,
        List.cons_append]

theorem fades_start (color : Color) : Fades color.start [] := by
  intro t
  apply uncolored_of_afterColor?
  cases color <;> rfl

theorem fades_reset : Fades reset [] := by
  intro t
  apply uncolored_of_afterColor?
  rfl

/-- A clear sequence is no colour sequence. -/
theorem fades_eraseLine : Fades eraseLine eraseLine := by
  intro t
  change uncolored ('\r' :: '\x1b' :: '[' :: 'K' :: t) = '\r' :: '\x1b' :: '[' :: 'K' :: uncolored t
  rw [uncolored_cons (afterColor?_cons_of_ne (by decide) _), uncolored_cons (by rfl),
    uncolored_cons (afterColor?_cons_of_ne (by decide) _),
    uncolored_cons (afterColor?_cons_of_ne (by decide) _)]

theorem fades_paint (c : Console) (color : Color) {t : Text} (h : '\x1b' ∉ t) :
    Fades (c.paint color t) t := by
  unfold paint
  split
  · have hall := ((fades_start color).append (fades_of_not_mem h)).append fades_reset
    simpa using hall
  · exact fades_of_not_mem h

/-! ### Clear sequences -/

/-- A text whose clear sequences are carried out; each erases what stands on its line so far. -/
def erased (line : Text) : Text → Text
  | '\r' :: '\x1b' :: '[' :: 'K' :: t => erased [] t
  | '\n' :: t => line ++ '\n' :: erased [] t
  | c :: t => erased (line ++ [c]) t
  | [] => line

theorem erased_cons {c : Char} (hc : c ≠ '\n') {t : Text} (ht : t.head? ≠ some '\x1b')
    (line : Text) : erased line (c :: t) = erased (line ++ [c]) t := by
  rw [erased]
  · rintro more rfl rfl
    exact ht rfl
  · rintro rfl
    exact hc rfl

theorem head?_append_ne {c : Char} {a b : Text} (ha : c ∉ a) (hb : b.head? ≠ some c) :
    (a ++ b).head? ≠ some c := by
  cases a with
  | nil => exact hb
  | cons d a =>
      rintro ⟨⟩
      exact ha List.mem_cons_self

/-- Nothing of a line is left behind a clear sequence. -/
theorem erased_line {a : Text} (hesc : '\x1b' ∉ a) (hline : '\n' ∉ a) (line t : Text) :
    erased line (a ++ (eraseLine ++ t)) = erased [] t := by
  induction a generalizing line with
  | nil => rfl
  | cons c a ih =>
      rw [List.mem_cons, not_or] at hesc hline
      have hnext : (a ++ (eraseLine ++ t)).head? ≠ some '\x1b' :=
        head?_append_ne hesc.2 (by rintro ⟨⟩)
      rw [List.cons_append, erased_cons (Ne.symm hline.1) hnext, ih hesc.2 hline.2]

/-- A text up to the end of a line stays, with what stood on the line before it. -/
theorem erased_append_newline {a : Text} (hesc : '\x1b' ∉ a) (line t : Text) :
    erased line (a ++ '\n' :: t) = line ++ a ++ '\n' :: erased [] t := by
  induction a generalizing line with
  | nil => rw [List.append_nil]; rfl
  | cons c a ih =>
      rw [List.mem_cons, not_or] at hesc
      by_cases hc : c = '\n'
      · subst hc
        have hstays : erased line ('\n' :: (a ++ '\n' :: t)) =
            line ++ '\n' :: erased [] (a ++ '\n' :: t) := rfl
        rw [List.cons_append, hstays, ih hesc.2]
        simp
      · have hnext : (a ++ '\n' :: t).head? ≠ some '\x1b' :=
          head?_append_ne hesc.2 (by rintro ⟨⟩)
        rw [List.cons_append, erased_cons hc hnext, ih hesc.2]
        simp

theorem erased_ofLines {lines : List Text} (h : ∀ line ∈ lines, '\x1b' ∉ line) (t : Text) :
    erased [] (Text.ofLines lines ++ t) = Text.ofLines lines ++ erased [] t := by
  induction lines with
  | nil => rfl
  | cons line lines ih =>
      have hcons : ∀ t, Text.ofLines (line :: lines) ++ t =
          line ++ '\n' :: (Text.ofLines lines ++ t) := by
        intro t
        rw [ofLines_cons, List.append_assoc, List.cons_append]
      rw [hcons, hcons, erased_append_newline (h line List.mem_cons_self),
        ih fun other hother => h other (List.mem_cons_of_mem line hother)]
      rfl

/-! ### Whole reports -/

open Suite

/-- No text that is shown for the script can be taken for a sequence, and its path stays on one
line. -/
structure Clean (c : Console) (f : Path × Outcome) : Prop where
  path : shows c f.2 = true → '\n' ∉ f.1 ∧ '\x1b' ∉ f.1
  findings : ∀ finding ∈ f.2.findings, ∀ line ∈ finding.lines, '\x1b' ∉ line

theorem fades_flatMap {α : Type} {xs : List α} {f g : α → Text} (h : ∀ x ∈ xs, Fades (f x) (g x)) :
    Fades (xs.flatMap f) (xs.flatMap g) := by
  induction xs with
  | nil => exact fun _ => rfl
  | cons x xs ih =>
      have hrest := ih fun y hy => h y (List.mem_cons_of_mem x hy)
      exact (h x List.mem_cons_self).append hrest

theorem fades_count (c : Console) (color : Color) (n : Nat) :
    Fades (c.paint color (Numeral.ofNat n)) (Numeral.ofNat n) :=
  fades_paint c color (not_mem_ofNat_of_control (by decide) n)

theorem fades_progressLine (c : Console) {path : Path} (h : '\x1b' ∉ path) (t : Tally) :
    Fades (c.progressLine path t) (({} : Console).progressLine path t) := by
  have hword : ∀ word : Text, '\x1b' ∉ word → Fades word word := fun _ => fades_of_not_mem
  have hpassed := (hword "Passed: ".toList (by decide)).append (fades_count c .green t.passed)
  have hfailed := (hpassed.append (hword " Failed: ".toList (by decide))).append
    (fades_count c .red t.failed)
  have hskipped := (hfailed.append (hword " Skipped: ".toList (by decide))).append
    (fades_count c .yellow t.skipped)
  exact (hskipped.append (hword " ".toList (by decide))).append (fades_paint c .gray h)

theorem fades_heading {word word' : Text} (hword : Fades word word') {path : Path}
    (h : '\x1b' ∉ path) : Fades (heading word path) (heading word' path) := by
  have hpath : '\x1b' ∉ ' ' :: path := by simp [h]
  exact (hword.append (fades_of_not_mem hpath)).append (fades_of_not_mem (by decide))

theorem fades_indented {a b : Text} (h : Fades a b) : Fades (indented a) (indented b) :=
  ((fades_of_not_mem (by decide)).append h).append (fades_of_not_mem (by decide))

theorem fades_listing (c : Console) {path : Path} {o : Outcome} (h : Clean c (path, o)) :
    Fades (c.listing path o).flatten (({} : Console).listing path o).flatten := by
  cases o with
  | passed => exact fun _ => rfl
  | skipped => exact fun _ => rfl
  | invalid _ =>
      have hheading := fades_heading
        (fades_paint c .magenta (show '\x1b' ∉ "TEST_ERROR".toList by decide)) (h.path rfl).2
      exact hheading.append (fades_of_not_mem (by decide))
  | failed findings =>
      have hheading := fades_heading
        (fades_paint c .red (show '\x1b' ∉ "FAIL".toList by decide)) (h.path rfl).2
      have hlines : ∀ line ∈ findings.flatMap Finding.lines,
          Fades (indented (c.paint .red line)) (indented line) := by
        intro line hline
        obtain ⟨f, hf, hline⟩ := List.mem_flatMap.1 hline
        exact fades_indented (fades_paint c .red (h.findings f hf line hline))
      exact hheading.append (fades_flatMap hlines)

theorem fades_summary (c : Console) (t : Tally) :
    Fades (c.summary t) (({} : Console).summary t) := by
  have hword : ∀ word : Text, '\x1b' ∉ word → Fades word word := fun _ => fades_of_not_mem
  have hpassed := fades_count c .green t.passed
  have hexpectations : Fades (" (".toList ++ Numeral.ofNat t.expectations ++
      " expectations).\n".toList) _ := fades_of_not_mem (by
    have := not_mem_ofNat_of_control (c := '\x1b') (by decide) t.expectations
    exact List.not_mem_append (List.not_mem_append (by decide) this) (by decide))
  unfold summary
  split
  · exact (((hword "All ".toList (by decide)).append hpassed).append
      (hword " tests passed".toList (by decide))).append hexpectations
  · exact (((hpassed.append (hword " tests passed. ".toList (by decide))).append
      (fades_count c .red t.failed)).append (hword " tests failed".toList (by decide))).append
      hexpectations

theorem mem_fileEvents {o : CheckOptions} {t : Tally} {visits : List Visit} {event : Event}
    (h : event ∈ fileEvents o t visits) : ∃ v ∈ visits, ∃ t,
      event = .fileStart v.script t ∨ event = .fileComplete v.script (v.outcome o) t := by
  induction visits generalizing t with
  | nil => cases h
  | cons v visits ih =>
      rw [fileEvents, List.mem_cons, List.mem_cons] at h
      rcases h with rfl | rfl | h
      · exact ⟨v, List.mem_cons_self, t, .inl rfl⟩
      · exact ⟨v, List.mem_cons_self, _, .inr rfl⟩
      · obtain ⟨w, hw, hevent⟩ := ih h
        exact ⟨w, List.mem_cons_of_mem v hw, hevent⟩

def plain (c : Console) : Console :=
  { c with color := false }

theorem shows_of_progress {c : Console} (h : c.progress = true) (o : Outcome) :
    shows c o = true := by
  cases o with
  | passed => exact h
  | skipped => exact h
  | failed _ => rfl
  | invalid _ => rfl

theorem fades_fileStart {c : Console} {path : Path} {o : Outcome} (h : Clean c (path, o))
    (t : Tally) : Fades (c.report (.fileStart path t)).flatten
      (c.plain.report (.fileStart path t)).flatten := by
  unfold report
  change Fades (if c.progress then [c.progressLine path t] else []).flatten
    (if c.progress then [({} : Console).progressLine path t] else []).flatten
  split
  · next hprogress =>
      have hpath := (h.path (shows_of_progress hprogress o)).2
      simpa using fades_progressLine c hpath t
  · exact fun _ => rfl

theorem fades_fileComplete {c : Console} {path : Path} {o : Outcome} (h : Clean c (path, o))
    (t : Tally) : Fades (c.report (.fileComplete path o t)).flatten
      (c.plain.report (.fileComplete path o t)).flatten := by
  unfold report
  rw [List.flatten_append, List.flatten_append]
  have hclear : Fades (if c.progress then [eraseLine] else []).flatten
      (if c.progress then [eraseLine] else []).flatten := by
    split
    · simpa using fades_eraseLine
    · exact fun _ => rfl
  exact hclear.append (fades_listing c h)

/-- Without its colour sequences a report is the one without colours. -/
theorem uncolored_text (c : Console) {o : CheckOptions} {visits : List Visit}
    (h : ∀ v ∈ visits, Clean c (v.completed o)) (elapsed : Duration) :
    uncolored (Report.text c.report (events o elapsed visits)) =
      Report.text c.plain.report (events o elapsed visits) := by
  have hevents : ∀ event ∈ events o elapsed visits,
      Fades (c.report event).flatten (c.plain.report event).flatten := by
    intro event hevent
    rw [events, List.cons_append, List.mem_cons, List.mem_append, List.mem_singleton] at hevent
    rcases hevent with rfl | hevent | rfl
    · exact fun _ => rfl
    · obtain ⟨v, hv, t, rfl | rfl⟩ := mem_fileEvents hevent
      · exact fades_fileStart (h v hv) t
      · exact fades_fileComplete (h v hv) t
    · have hsummary : Fades (c.summary (totals o visits)) (c.plain.summary (totals o visits)) :=
        fades_summary c _
      simpa [report] using hsummary
  have hall := fades_flatMap hevents []
  simpa [uncolored, Report.text] using hall

theorem not_mem_progressLine {ch : Char} (hch : ch.toNat < 0x20) {path : Path} (h : ch ∉ path)
    (t : Tally) : ch ∉ ({} : Console).progressLine path t := by
  have hcount := not_mem_ofNat_of_control hch
  have hpassed : ch ∉ "Passed: ".toList := not_mem_of_printable hch (by decide)
  have hfailed : ch ∉ " Failed: ".toList := not_mem_of_printable hch (by decide)
  have hskipped : ch ∉ " Skipped: ".toList := not_mem_of_printable hch (by decide)
  have hspace : ch ∉ " ".toList := not_mem_of_printable hch (by decide)
  unfold progressLine
  simp only [paint_plain, List.mem_append, hpassed, hfailed, hskipped, hspace, hcount, h, or_false,
    not_false_eq_true]

theorem esc_not_mem_entry {c : Console} {path : Path} {o : Outcome} (h : Clean c (path, o)) :
    ∀ line ∈ entry path o, '\x1b' ∉ line := by
  apply not_mem_entry (by decide)
  · intro hshows
    apply (h.path _).2
    cases o with
    | passed => cases hshows
    | skipped => cases hshows
    | failed _ => rfl
    | invalid _ => rfl
  · exact h.findings

/-- One script's part of the report without colours.  A progress line is drawn before the script
and erased behind it; what is listed stays. -/
theorem erased_file {c : Console} {path : Path} {o : Outcome} (h : Clean c (path, o))
    (before after : Tally) (rest : Text) :
    erased [] ((c.plain.report (.fileStart path before)).flatten ++
        ((c.plain.report (.fileComplete path o after)).flatten ++ rest)) =
      Text.ofLines (entry path o) ++ erased [] rest := by
  have hlisting : (c.plain.report (.fileComplete path o after)).flatten =
      (if c.progress then eraseLine else []) ++ Text.ofLines (entry path o) := by
    rw [← flatten_listing, report, List.flatten_append]
    congr 1
    cases c with
    | mk _ progress => cases progress <;> rfl
  have hstart : (c.plain.report (.fileStart path before)).flatten =
      if c.progress then ({} : Console).progressLine path before else [] := by
    cases c with
    | mk _ progress =>
        cases progress with
        | false => rfl
        | true => exact List.append_nil _
  rw [hlisting, hstart]
  by_cases hprogress : c.progress = true
  · obtain ⟨hline, hesc⟩ := h.path (shows_of_progress hprogress o)
    rw [if_pos hprogress, if_pos hprogress, List.append_assoc,
      erased_line (not_mem_progressLine (by decide) hesc before)
        (not_mem_progressLine (by decide) hline before),
      erased_ofLines (esc_not_mem_entry h)]
  · rw [if_neg hprogress, if_neg hprogress, List.nil_append, List.nil_append,
      erased_ofLines (esc_not_mem_entry h)]

theorem erased_fileEvents {c : Console} {o : CheckOptions} {visits : List Visit}
    (h : ∀ v ∈ visits, Clean c (v.completed o)) (t : Tally) (rest : Text) :
    erased [] (Report.text c.plain.report (fileEvents o t visits) ++ rest) =
      Report.text (report {}) (fileEvents o t visits) ++ erased [] rest := by
  rw [text_fileEvents]
  induction visits generalizing t with
  | nil => rfl
  | cons v visits ih =>
      have hrest := ih (fun w hw => h w (List.mem_cons_of_mem v hw)) (v.count o t)
      rw [fileEvents, Report.text_cons, Report.text_cons, List.append_assoc, List.append_assoc,
        erased_file (h v List.mem_cons_self), hrest, List.map_cons, List.flatMap_cons,
        ofLines_append, List.append_assoc]
      rfl

/-- With every clear sequence carried out, a report without colours is the plain one. -/
theorem erased_text (c : Console) {o : CheckOptions} {visits : List Visit}
    (h : ∀ v ∈ visits, Clean c (v.completed o)) (elapsed : Duration) :
    erased [] (Report.text c.plain.report (events o elapsed visits)) =
      Report.text (report {}) (events o elapsed visits) := by
  have hlast : ∀ line ∈ [lastLine (totals o visits)], '\x1b' ∉ line := by
    intro line hline
    rw [List.mem_singleton.1 hline]
    exact not_mem_lastLine (by decide) _
  have hsummary : Report.text c.plain.report [.suiteComplete (totals o visits) elapsed] =
      Text.ofLines [lastLine (totals o visits)] ++ [] := by
    rw [← flatten_summary]
    exact (List.append_nil _)
  rw [text_events, ofLines_append, ← text_fileEvents o {}, events, List.cons_append,
    Report.text_cons, Report.text_append, hsummary]
  change erased [] (Report.text c.plain.report (fileEvents o {} visits) ++ _) = _
  rw [erased_fileEvents h, erased_ofLines hlast]
  simp [erased]

/-- Colours and progress are decoration.  Whatever of them is on, the plain report does the same
run, and it is what is left of the decorated one without its colour sequences and with its clear
sequences carried out. -/
theorem decoration_leaves_plain_report {ω : Type} {settings : Settings} {world : World ω}
    {start : ω} {elapsed : Duration} {limit : Option Nat} {c : Console} {t : Tally}
    {s : Session Sink ω}
    (hrun : run settings world (Report.reporter c.report) { limit := limit } start elapsed =
      .ok t s)
    (hclean : ∀ f ∈ s.outcomes, Clean c f) :
    ∃ s₀, run settings world (Report.reporter (report {})) {} start elapsed = .ok t s₀ ∧
      s₀.log = s.log ∧ s₀.world = s.world ∧
      erased [] (uncolored s.reporter.text) = s₀.reporter.text := by
  obtain ⟨visits, state', after, hunfailing, rfl, rfl⟩ := run_eq_ok_iff.1 hrun
  rw [outcomes_of_trace] at hclean
  have hvisits : ∀ v ∈ visits, Clean c (v.completed settings.check) :=
    fun v hv => hclean _ (List.mem_map_of_mem hv)
  obtain ⟨state₀, hhandled, hplain⟩ := exists_run_of_willing hunfailing.found hunfailing.visited
    (willing_of_unlimited (s := {}) (report {}) rfl) elapsed
  refine ⟨_, hplain, rfl, rfl, ?_⟩
  change erased [] (uncolored state'.text) = state₀.text
  rw [text_of_handled hunfailing.handled rfl, text_of_handled hhandled rfl,
    uncolored_text c hvisits, erased_text c hvisits]

theorem decoration_leaves_plain_report_small :
    ∃ s s₀, run smallSettings smallWorld
        (Report.reporter (report { color := true, progress := true })) {} 0 {} =
          .ok ⟨2, 1, 1, 1, 4⟩ s ∧
      (∀ f ∈ s.outcomes, Clean { color := true, progress := true } f) ∧
      run smallSettings smallWorld (Report.reporter (report {})) {} 0 {} =
        .ok ⟨2, 1, 1, 1, 4⟩ s₀ ∧
      erased [] (uncolored s.reporter.text) = s₀.reporter.text := by
  obtain ⟨s, hrun, houtcomes⟩ := exists_run_small (report { color := true, progress := true })
  have hpaths : ∀ f ∈ smallVisits.map (Visit.completed {}), '\n' ∉ f.1 ∧ '\x1b' ∉ f.1 := by
    decide +kernel
  have hfindings : ∀ f ∈ smallVisits.map (Visit.completed {}), ∀ finding ∈ f.2.findings,
      ∀ line ∈ finding.lines, '\x1b' ∉ line := by
    decide +kernel
  have hclean : ∀ f ∈ s.outcomes, Clean { color := true, progress := true } f := by
    rw [houtcomes]
    exact fun f hf => ⟨fun _ => hpaths f hf, hfindings f hf⟩
  obtain ⟨s₀, hplain, -, -, htext⟩ := decoration_leaves_plain_report hrun hclean
  exact ⟨s, s₀, hrun, hclean, hplain, htext⟩

end Conformance.Report.Console
