import Conformance.Diagnostic
import Conformance.Proofs.Numeral

/-!
What the readers of error messages accept, and the texts that a compile error can be reported
under.  A label is an answer of the reader exactly when its message goes beyond the error word and
names no further place, since the reader takes the rightmost place of a line.
-/

namespace Conformance

/-- The end of a place and the error word behind it. -/
def place (line : Text) : Text :=
  lineWord ++ line ++ '】' :: errorWord

theorem place?_eq_some_iff {t line message : Text} :
    place? t = some (line, message) ↔ Text.IsDigits line ∧ t = place line ++ message := by
  constructor
  · intro h
    simp only [place?, Option.bind_eq_bind, Option.bind_eq_some_iff, Option.pure_def,
      Option.some.injEq, Prod.mk.injEq, Prod.exists] at h
    obtain ⟨rest, hword, line', rest', hdigits, message', hend, rfl, rfl⟩ := h
    obtain ⟨hline, hrest⟩ := Text.digits?_eq_some hdigits
    rw [Text.after?_eq_some_iff] at hword hend
    refine ⟨hline, ?_⟩
    rw [hword, hrest, hend]
    simp [place]
  · rintro ⟨hline, rfl⟩
    have hdigits : Text.digits? (line ++ '】' :: (errorWord ++ message)) =
        some (line, '】' :: (errorWord ++ message)) :=
      Text.digits?_append_cons hline (by decide) _
    have hend : Text.after? ('】' :: errorWord) ('】' :: (errorWord ++ message)) = some message :=
      Text.after?_append ('】' :: errorWord) message
    simp [place?, place, hdigits, hend]

/-- A compile error is read from a place that goes on with a message. -/
theorem labelHere?_eq_some_iff {t d : Text} :
    labelHere? t = some d ↔ ∃ line message, Text.IsDigits line ∧ message ≠ [] ∧
      t = place line ++ message ∧ d = label line (errorWord ++ message) := by
  simp only [labelHere?, Option.bind_eq_bind, Option.bind_eq_some_iff, Prod.exists,
    place?_eq_some_iff]
  constructor
  · rintro ⟨line, message, ⟨hline, ht⟩, hmessage⟩
    split at hmessage
    · cases hmessage
    · next hne => exact ⟨line, message, hline, hne, ht, (Option.some.inj hmessage).symm⟩
  · rintro ⟨line, message, hline, hne, ht, rfl⟩
    exact ⟨line, message, ⟨hline, ht⟩, by simp [hne]⟩

/-- A stack trace entry is read from a bracket, the line word, a line number and a bracket. -/
theorem traceHere?_eq_some_iff {t line : Text} :
    traceHere? t = some line ↔
      Text.IsDigits line ∧ ∃ rest, t = "[line ".toList ++ (line ++ ']' :: rest) := by
  constructor
  · intro h
    simp only [traceHere?, Option.bind_eq_bind, Option.bind_eq_some_iff, Option.pure_def,
      Option.some.injEq, Prod.exists] at h
    obtain ⟨rest, hword, line', rest', hdigits, rest'', hend, rfl⟩ := h
    obtain ⟨hline, hrest⟩ := Text.digits?_eq_some hdigits
    rw [Text.after?_eq_some_iff] at hword hend
    exact ⟨hline, rest'', by rw [hword, hrest, hend]; rfl⟩
  · rintro ⟨hline, rest, rfl⟩
    have hword : Text.after? "[line ".toList ("[line ".toList ++ (line ++ ']' :: rest)) =
        some (line ++ ']' :: rest) := Text.after?_append _ _
    have hdigits : Text.digits? (line ++ ']' :: rest) = some (line, ']' :: rest) :=
      Text.digits?_append_cons hline (by decide) rest
    have hend : Text.after? [']'] (']' :: rest) = some rest := Text.after?_append [']'] rest
    simp only [traceHere?, hword, hdigits, hend, Option.bind_eq_bind, Option.bind_some,
      Option.pure_def]

theorem diagnostic?_eq_lineDiagnostic? {t : Text} (h : '\n' ∉ t) :
    diagnostic? t = lineDiagnostic? t := by
  rw [diagnostic?, pieces_of_not_mem h]
  simp

theorem diagnostic?_nil : diagnostic? [] = none := by decide

theorem not_mem_of_isDigits {line : Text} (hline : Text.IsDigits line) {c : Char}
    (hc : Text.isDecimalDigit c = false) : c ∉ line := by
  intro hmem
  rw [hline.isDecimalDigit c hmem] at hc
  cases hc

/-- A label determines its line number and its message, as no digit closes the bracket. -/
theorem label_inj {line line' message message' : Text} (hline : Text.IsDigits line)
    (hline' : Text.IsDigits line') (h : label line message = label line' message') :
    line = line' ∧ message = message' := by
  have hbracket : ∀ {digits : Text}, Text.IsDigits digits → ']' ∉ digits :=
    fun hdigits => not_mem_of_isDigits hdigits (by decide)
  simp only [label, List.cons_append, List.cons.injEq, true_and] at h
  have hpieces := congrArg (pieces ']') h
  rw [pieces_append_cons (hbracket hline), pieces_append_cons (hbracket hline')] at hpieces
  obtain rfl := (List.cons.inj hpieces).1
  exact ⟨rfl, by simpa using h⟩

/-- The text names a place with a message behind it. -/
def NamesPlace (t : Text) : Prop :=
  ∃ before line c after, Text.IsDigits line ∧ t = before ++ place line ++ c :: after

theorem namesPlace_iff {t : Text} :
    NamesPlace t ↔ ∃ before ending d, t = before ++ ending ∧ labelHere? ending = some d := by
  constructor
  · rintro ⟨before, line, c, after, hline, rfl⟩
    refine ⟨before, place line ++ c :: after, label line (errorWord ++ c :: after), by simp, ?_⟩
    exact labelHere?_eq_some_iff.2 ⟨line, c :: after, hline, by simp, rfl, rfl⟩
  · rintro ⟨before, ending, d, rfl, hread⟩
    obtain ⟨line, message, hline, hne, rfl, -⟩ := labelHere?_eq_some_iff.1 hread
    obtain ⟨c, after, rfl⟩ := List.exists_cons_of_ne_nil hne
    exact ⟨before, line, c, after, hline, by simp⟩

theorem place_eq_cons (line : Text) :
    place line = '行' :: ' ' :: (line ++ '】' :: errorWord) := rfl

/-- Two places do not overlap: a place that starts later starts in the message. -/
theorem exists_eq_append_of_place {line message front back d : Text} (hline : Text.IsDigits line)
    (h : place line ++ message = front ++ back) (hfront : front ≠ [])
    (hread : labelHere? back = some d) : ∃ between, message = between ++ back := by
  obtain ⟨line', message', -, -, hback, -⟩ := labelHere?_eq_some_iff.1 hread
  rcases List.append_eq_append_iff.1 h with ⟨between, -, hmessage⟩ | ⟨inside, hplace, hend⟩
  · exact ⟨between, hmessage⟩
  · cases inside with
    | nil => exact ⟨[], by simpa using hend.symm⟩
    | cons c inside =>
        exfalso
        -- A place starts with the line word, and the rest of a place does not hold its character.
        have hc : c = '行' := by
          rw [hback, place_eq_cons, List.cons_append, List.cons_append] at hend
          exact (List.cons.inj hend).1.symm
        obtain ⟨first, front, rfl⟩ := List.exists_cons_of_ne_nil hfront
        rw [place_eq_cons, List.cons_append] at hplace
        have hmem : '行' ∈ ' ' :: (line ++ '】' :: errorWord) := by
          rw [(List.cons.inj hplace).2, hc]
          simp
        have hnot : '行' ∉ line := not_mem_of_isDigits hline (by decide)
        simp [hnot, errorWord] at hmem

/-- Some line of standard error is read as a compile error with this label. -/
def Answerable (d : Text) : Prop :=
  ∃ s, '\n' ∉ s ∧ diagnostic? s = some d

theorem answerable_label_iff {line message : Text} (hline : Text.IsDigits line)
    (hmessage : '\n' ∉ message) :
    Answerable (label line (errorWord ++ message)) ↔ message ≠ [] ∧ ¬ NamesPlace message := by
  constructor
  · rintro ⟨s, hs, hread⟩
    rw [diagnostic?_eq_lineDiagnostic? hs] at hread
    simp only [lineDiagnostic?, Option.bind_eq_bind, Option.bind_eq_some_iff] at hread
    obtain ⟨t, -, hlast⟩ := hread
    obtain ⟨before, ending, -, hending, hrightmost⟩ := Text.lastAt_eq_some_iff.1 hlast
    obtain ⟨line', message', hline', hne, rfl, hlabel⟩ := labelHere?_eq_some_iff.1 hending
    obtain ⟨rfl, hmessages⟩ := label_inj hline hline' hlabel
    obtain rfl := List.append_cancel_left hmessages
    refine ⟨hne, fun hplace => ?_⟩
    obtain ⟨between, further, d, rfl, hfurther⟩ := namesPlace_iff.1 hplace
    have := hrightmost (place line ++ between) further (by simp) (by simp [place, lineWord])
    rw [this] at hfurther
    cases hfurther
  · rintro ⟨hne, hplace⟩
    have hline' : '\n' ∉ line := not_mem_of_isDigits hline (by decide)
    have hs : '\n' ∉ '【' :: (place line ++ message) := by
      simp [place_eq_cons, hline', hmessage, errorWord]
    refine ⟨'【' :: (place line ++ message), hs, ?_⟩
    have hopen : Text.afterFirst? ['【'] ('【' :: (place line ++ message)) =
        some (place line ++ message) :=
      Text.firstAt_cons_of_some (Text.after?_append ['【'] _)
    rw [diagnostic?_eq_lineDiagnostic? hs, lineDiagnostic?, hopen]
    apply Text.lastAt_eq_some_iff.2
    refine ⟨[], place line ++ message, rfl,
      labelHere?_eq_some_iff.2 ⟨line, message, hline, hne, rfl, rfl⟩, ?_⟩
    intro front back hsplit hfront
    by_contra hread
    obtain ⟨d, hd⟩ := Option.ne_none_iff_exists'.1 hread
    obtain ⟨between, rfl⟩ := exists_eq_append_of_place hline hsplit hfront hd
    exact hplace (namesPlace_iff.2 ⟨between, back, d, rfl, hd⟩)

end Conformance
