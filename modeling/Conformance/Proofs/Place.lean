import Conformance.Proofs.Diagnostic
import Conformance.Proofs.Occurrence

/-!
The grammar of compile errors on standard error.  A line reports a compile error exactly when a
place with a message behind it stands somewhere behind a bracket.  Of several places the rightmost
one counts, which is the one with the shortest message, wherever the brackets stand.
-/

namespace Conformance

variable {s before between line message before' between' line' message' d : Text}

/-- One way to find a compile error in a text: a bracket, somewhere behind it a place, and a message
behind the place. -/
structure Locates (s before between line message : Text) : Prop where
  digits : Text.IsDigits line
  message_ne_nil : message ≠ []
  eq_append :
    s = before ++ "【".toList ++ between ++ "行 ".toList ++ line ++ "】错误".toList ++ message

/-- How much of the text stands before the place. -/
def placeStart (before between : Text) : Nat :=
  (before ++ "【".toList ++ between).length

/-- The way to find a compile error whose place stands furthest right. -/
structure LocatesLast (s before between line message : Text) : Prop extends
    Locates s before between line message where
  last : ∀ before' between' line' message', Locates s before' between' line' message' →
    placeStart before' between' ≤ placeStart before between

namespace Locates

theorem eq_place (h : Locates s before between line message) :
    s = (before ++ "【".toList ++ between) ++ (place line ++ message) := by
  rw [h.eq_append]
  simp only [place, List.append_assoc]
  rfl

theorem labelHere?_eq (h : Locates s before between line message) :
    labelHere? (place line ++ message) = some (label line (errorWord ++ message)) :=
  labelHere?_eq_some_iff.2 ⟨line, message, h.digits, h.message_ne_nil, rfl, rfl⟩

theorem suffix (h : Locates s before between line message) : place line ++ message <:+ s :=
  ⟨_, h.eq_place.symm⟩

theorem length_eq (h : Locates s before between line message) :
    s.length = placeStart before between + (place line ++ message).length := by
  rw [h.eq_place, List.length_append]
  rfl

/-- A place that starts later starts in the message of the earlier one. -/
theorem exists_eq_append_of_lt (h : Locates s before between line message)
    (h' : Locates s before' between' line' message')
    (hlt : placeStart before between < placeStart before' between') :
    ∃ front, message = front ++ (place line' ++ message') := by
  have hshorter : (place line' ++ message').length < (place line ++ message).length := by
    have hlength := h.length_eq
    have hlength' := h'.length_eq
    omega
  obtain ⟨front, hfront⟩ :=
    List.suffix_of_suffix_length_le h'.suffix h.suffix (Nat.le_of_lt hshorter)
  have hne : front ≠ [] := by
    rintro rfl
    rw [← hfront] at hshorter
    exact Nat.lt_irrefl _ hshorter
  exact exists_eq_append_of_place h.digits hfront.symm hne h'.labelHere?_eq

theorem namesPlace_of_lt (h : Locates s before between line message)
    (h' : Locates s before' between' line' message')
    (hlt : placeStart before between < placeStart before' between') : NamesPlace message := by
  obtain ⟨front, rfl⟩ := h.exists_eq_append_of_lt h' hlt
  exact namesPlace_iff.2 ⟨front, _, _, rfl, h'.labelHere?_eq⟩

theorem length_message_lt (h : Locates s before between line message)
    (h' : Locates s before' between' line' message')
    (hlt : placeStart before between < placeStart before' between') :
    message'.length < message.length := by
  obtain ⟨front, rfl⟩ := h.exists_eq_append_of_lt h' hlt
  simp only [place_eq_cons, List.length_append, List.length_cons]
  omega

/-- Where a place stands decides what it says. -/
theorem eq_of_placeStart_eq (h : Locates s before between line message)
    (h' : Locates s before' between' line' message')
    (heq : placeStart before between = placeStart before' between') :
    line = line' ∧ message = message' := by
  have hends : place line ++ message = place line' ++ message' :=
    (List.append_inj (h.eq_place.symm.trans h'.eq_place) heq).2
  have hread : place? (place line ++ message) = some (line, message) :=
    place?_eq_some_iff.2 ⟨h.digits, rfl⟩
  rw [hends, place?_eq_some_iff.2 ⟨h'.digits, rfl⟩] at hread
  cases hread
  exact ⟨rfl, rfl⟩

/-- The further right a place stands, the shorter is its message. -/
theorem placeStart_le_iff (h : Locates s before between line message)
    (h' : Locates s before' between' line' message') :
    placeStart before' between' ≤ placeStart before between ↔
      message.length ≤ message'.length := by
  rcases Nat.lt_trichotomy (placeStart before between) (placeStart before' between') with
    hlt | heq | hgt
  · have hmessage := h.length_message_lt h' hlt
    omega
  · obtain ⟨-, rfl⟩ := h.eq_of_placeStart_eq h' heq
    omega
  · have hmessage := h'.length_message_lt h hgt
    omega

/-- A place in the message of a place is a later one. -/
theorem exists_lt_of_namesPlace (h : Locates s before between line message)
    (hplace : NamesPlace message) : ∃ between' line' message',
      Locates s before between' line' message' ∧
        placeStart before between < placeStart before between' := by
  obtain ⟨front, line', c, after, hline', rfl⟩ := hplace
  refine ⟨between ++ (place line ++ front), line', c :: after, ⟨hline', by simp, ?_⟩, ?_⟩
  · rw [h.eq_place]
    simp only [place, List.append_assoc]
    rfl
  · simp only [placeStart, place_eq_cons, List.length_append, List.length_cons]
    omega

end Locates

/-- The last place is the one whose message names no further place. -/
theorem locatesLast_iff : LocatesLast s before between line message ↔
    Locates s before between line message ∧ ¬ NamesPlace message := by
  constructor
  · intro h
    refine ⟨h.toLocates, fun hplace => ?_⟩
    obtain ⟨between', line', message', h', hlt⟩ := h.toLocates.exists_lt_of_namesPlace hplace
    exact Nat.not_le_of_lt hlt (h.last _ _ _ _ h')
  · rintro ⟨h, hplace⟩
    refine ⟨h, fun before' between' line' message' h' => ?_⟩
    apply Nat.le_of_not_lt
    intro hlt
    exact hplace (h.namesPlace_of_lt h' hlt)

/-- A line on which a place can be found is read. -/
theorem exists_lineDiagnostic? (h : Locates s before between line message) :
    ∃ d, lineDiagnostic? s = some d := by
  have hbracket : s = before ++ ("【".toList ++ (between ++ (place line ++ message))) := by
    rw [h.eq_place]
    simp only [List.append_assoc]
  obtain ⟨t, ht⟩ : ∃ t, Text.afterFirst? ['【'] s = some t := by
    refine Option.ne_none_iff_exists'.1 fun hnone => ?_
    exact Text.afterFirst?_eq_none_iff.1 hnone before _ hbracket ⟨_, rfl⟩
  obtain ⟨front, hfirst⟩ := Text.afterFirst?_eq_some_iff.1 ht
  -- The first bracket stands at or before this one, so the place is behind it too.
  have hlength := hfirst.first before _ hbracket ⟨_, rfl⟩
  have hplace : place line ++ message <:+ t := by
    refine List.suffix_of_suffix_length_le h.suffix
      ⟨front ++ ['【'], by rw [hfirst.eq_append, List.append_assoc]⟩ ?_
    have hs := congrArg List.length hfirst.eq_append
    rw [h.length_eq] at hs
    simp only [placeStart, List.length_append, List.length_cons, List.length_nil] at hs ⊢
    have hone : "【".toList.length = 1 := rfl
    omega
  obtain ⟨skipped, hskipped⟩ := hplace
  rw [lineDiagnostic?, ht]
  refine Option.ne_none_iff_exists'.1 fun hnone => ?_
  have hread := Text.lastAt_eq_none_iff.1 hnone skipped _ hskipped.symm
  rw [h.labelHere?_eq] at hread
  cases hread

theorem locatesLast_of_lineDiagnostic? (h : lineDiagnostic? s = some d) :
    ∃ before between line message, LocatesLast s before between line message ∧
      d = label line (errorWord ++ message) := by
  simp only [lineDiagnostic?, Option.bind_eq_bind, Option.bind_eq_some_iff] at h
  obtain ⟨t, hbracket, hlast⟩ := h
  obtain ⟨before, hfirst⟩ := Text.afterFirst?_eq_some_iff.1 hbracket
  obtain ⟨between, ending, rfl, hending, hrightmost⟩ := Text.lastAt_eq_some_iff.1 hlast
  obtain ⟨line, message, hline, hne, rfl, rfl⟩ := labelHere?_eq_some_iff.1 hending
  have hlocates : Locates s before between line message := by
    refine ⟨hline, hne, ?_⟩
    rw [hfirst.eq_append]
    simp only [place, List.append_assoc]
    rfl
  refine ⟨before, between, line, message, ⟨hlocates, ?_⟩, rfl⟩
  intro before' between' line' message' h'
  apply Nat.le_of_not_lt
  intro hlt
  obtain ⟨front, rfl⟩ := hlocates.exists_eq_append_of_lt h' hlt
  have hnone := hrightmost (place line ++ front) (place line' ++ message')
    (by rw [List.append_assoc]) (by simp [place_eq_cons])
  rw [h'.labelHere?_eq] at hnone
  cases hnone

theorem lineDiagnostic?_eq_some_iff :
    lineDiagnostic? s = some d ↔ ∃ before between line message,
      LocatesLast s before between line message ∧ d = label line (errorWord ++ message) := by
  constructor
  · exact locatesLast_of_lineDiagnostic?
  · rintro ⟨before, between, line, message, h, rfl⟩
    obtain ⟨d, hd⟩ := exists_lineDiagnostic? h.toLocates
    obtain ⟨before', between', line', message', h', rfl⟩ := locatesLast_of_lineDiagnostic? hd
    have hstart := Nat.le_antisymm (h'.last _ _ _ _ h.toLocates) (h.last _ _ _ _ h'.toLocates)
    obtain ⟨rfl, rfl⟩ := h.toLocates.eq_of_placeStart_eq h'.toLocates hstart
    exact hd

theorem not_namesPlace_iff {t : Text} : ¬ NamesPlace t ↔ Text.lastAt labelHere? t = none := by
  rw [Text.lastAt_eq_none_iff, namesPlace_iff]
  constructor
  · intro h before ending hsplit
    cases hread : labelHere? ending with
    | none => rfl
    | some d => exact absurd ⟨before, ending, d, hsplit, hread⟩ h
  · rintro h ⟨before, ending, d, hsplit, hread⟩
    rw [h before ending hsplit] at hread
    cases hread

/-- No place starts in the error word. -/
theorem namesPlace_errorWord_append_iff :
    NamesPlace (errorWord ++ message) ↔ NamesPlace message := by
  have hskip : Text.lastAt labelHere? (errorWord ++ message) = Text.lastAt labelHere? message := by
    change ((Text.lastAt labelHere? message).orElse fun _ => none).orElse (fun _ => none) = _
    cases Text.lastAt labelHere? message <;> rfl
  rw [← not_iff_not, not_namesPlace_iff, not_namesPlace_iff, hskip]

theorem diagnostic?_eq_some_iff (hs : '\n' ∉ s) :
    diagnostic? s = some d ↔ ∃ before between line message,
      LocatesLast s before between line message ∧ d = label line (errorWord ++ message) := by
  rw [diagnostic?_eq_lineDiagnostic? hs, lineDiagnostic?_eq_some_iff]

example : diagnostic? "【行 1】错误a 行 2】错误b".toList = some "[2] 错误b".toList := by decide

/-- The message of a compile error never names a further place. -/
theorem not_namesPlace_of_diagnostic? (h : diagnostic? s = some d) :
    ∃ line message, Text.IsDigits line ∧ d = label line (errorWord ++ message) ∧
      ¬ NamesPlace (errorWord ++ message) := by
  obtain ⟨piece, -, hread⟩ := List.exists_of_findSome?_eq_some h
  obtain ⟨before, between, line, message, hlast, rfl⟩ := locatesLast_of_lineDiagnostic? hread
  refine ⟨line, message, hlast.digits, rfl, ?_⟩
  rw [namesPlace_errorWord_append_iff]
  exact (locatesLast_iff.1 hlast).2

/-- A line reports a compile error exactly when a place with a message can be found in it, and it is
reported under the rightmost of these places, which has the shortest message.  So a message that
names no further place is reported as it stands, and no message that is reported names one. -/
theorem diagnostic?_rightmost (hs : '\n' ∉ s) :
    ((diagnostic? s).isSome ↔
        ∃ before between line message, Locates s before between line message) ∧
      (∀ d, diagnostic? s = some d ↔ ∃ before between line message,
        LocatesLast s before between line message ∧ d = label line (errorWord ++ message)) ∧
      (∀ before between line message before' between' line' message',
        Locates s before between line message → Locates s before' between' line' message' →
          (placeStart before' between' ≤ placeStart before between ↔
            message.length ≤ message'.length)) ∧
      (∀ before between line message, Locates s before between line message →
        ¬ NamesPlace (errorWord ++ message) →
          diagnostic? s = some (label line (errorWord ++ message))) ∧
      ∀ t d, diagnostic? t = some d → ∃ line message, Text.IsDigits line ∧
        d = label line (errorWord ++ message) ∧ ¬ NamesPlace (errorWord ++ message) := by
  refine ⟨?_, fun d => diagnostic?_eq_some_iff hs, ?_, ?_, ?_⟩
  · rw [Option.isSome_iff_exists]
    constructor
    · rintro ⟨d, hread⟩
      obtain ⟨before, between, line, message, h, -⟩ := (diagnostic?_eq_some_iff hs).1 hread
      exact ⟨before, between, line, message, h.toLocates⟩
    · rintro ⟨before, between, line, message, h⟩
      rw [diagnostic?_eq_lineDiagnostic? hs]
      exact exists_lineDiagnostic? h
  · intro before between line message before' between' line' message' h h'
    exact h.placeStart_le_iff h'
  · intro before between line message h hplace
    rw [namesPlace_errorWord_append_iff] at hplace
    exact (diagnostic?_eq_some_iff hs).2
      ⟨before, between, line, message, locatesLast_iff.2 ⟨h, hplace⟩, rfl⟩
  · intro t d hread
    exact not_namesPlace_of_diagnostic? hread

/-- A line with two brackets and three places, the last of which has no message behind it. -/
theorem diagnostic?_rightmost_two :
    '\n' ∉ "【行 1】错误a【x行 ٢٣】错误b【行 4】错误".toList ∧
      Locates "【行 1】错误a【x行 ٢٣】错误b【行 4】错误".toList "【行 1】错误a".toList ['x'] "٢٣".toList
        "b【行 4】错误".toList ∧
      diagnostic? "【行 1】错误a【x行 ٢٣】错误b【行 4】错误".toList =
        some "[٢٣] 错误b【行 4】错误".toList := by
  have hs : '\n' ∉ "【行 1】错误a【x行 ٢٣】错误b【行 4】错误".toList := by decide +kernel
  have hlocates : Locates "【行 1】错误a【x行 ٢٣】错误b【行 4】错误".toList "【行 1】错误a".toList ['x']
      "٢٣".toList "b【行 4】错误".toList :=
    ⟨⟨by decide, List.all_eq_true.1 (by decide +kernel)⟩, by decide, by decide +kernel⟩
  have hplace : ¬ NamesPlace (errorWord ++ "b【行 4】错误".toList) :=
    not_namesPlace_iff.2 (by decide +kernel)
  have hlabel : label "٢٣".toList (errorWord ++ "b【行 4】错误".toList) =
      "[٢٣] 错误b【行 4】错误".toList := by decide +kernel
  refine ⟨hs, hlocates, ?_⟩
  rw [← hlabel]
  exact (diagnostic?_rightmost hs).2.2.2.1 _ _ _ _ hlocates hplace

end Conformance
