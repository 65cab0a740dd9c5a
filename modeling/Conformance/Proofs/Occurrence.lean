import Conformance.Text.Search

/-!
The place at which a search finds something.  A search from the front answers at the leftmost place
that is accepted, so the first occurrence of a word is the leftmost place that starts with it.
-/

namespace Conformance.Text

variable {α : Type} {P : Text → Prop} {read : Text → Option α} {t before ending : Text} {a : α}

/-- An ending of the text that has a property, where no ending that starts earlier has it. -/
structure Leftmost (P : Text → Prop) (t before ending : Text) : Prop where
  eq_append : t = before ++ ending
  holds : P ending
  first : ∀ before' ending', t = before' ++ ending' → P ending' → before.length ≤ before'.length

/-- A search from the front answers with the reading of the leftmost place. -/
theorem firstAt_eq_some_iff_leftmost (hread : ∀ ending, P ending ↔ ∃ b, read ending = some b) :
    firstAt read t = some a ↔
      ∃ before ending, Leftmost P t before ending ∧ read ending = some a := by
  rw [firstAt_eq_some_iff]
  constructor
  · rintro ⟨before, ending, rfl, ha, hfirst⟩
    refine ⟨before, ending, ⟨rfl, (hread ending).2 ⟨a, ha⟩, ?_⟩, ha⟩
    intro before' ending' hsplit hholds
    apply Nat.le_of_not_lt
    intro hearlier
    -- A place that starts earlier has a part of `before` to its right.
    rcases List.append_eq_append_iff.1 hsplit with ⟨more, rfl, -⟩ | ⟨more, rfl, rfl⟩
    · rw [List.length_append] at hearlier
      omega
    · have hmore : more ≠ [] := by
        rintro rfl
        simp at hearlier
      obtain ⟨b, hb⟩ := (hread _).1 hholds
      rw [hfirst before' more rfl hmore] at hb
      cases hb
  · rintro ⟨before, ending, h, ha⟩
    refine ⟨before, ending, h.eq_append, ha, ?_⟩
    intro front back hsplit hback
    cases hearlier : read (back ++ ending) with
    | none => rfl
    | some b =>
        exfalso
        have hlength := h.first front (back ++ ending)
          (by rw [h.eq_append, hsplit, List.append_assoc]) ((hread _).2 ⟨b, hearlier⟩)
        have hpos := List.length_pos_iff.2 hback
        rw [hsplit, List.length_append] at hlength
        omega

/-- A search from the front fails if it accepts no place. -/
theorem firstAt_eq_none_iff_forall_not (hread : ∀ ending, P ending ↔ ∃ b, read ending = some b) :
    firstAt read t = none ↔ ∀ before ending, t = before ++ ending → ¬ P ending := by
  rw [firstAt_eq_none_iff]
  simp only [hread, not_exists, Option.eq_none_iff_forall_ne_some, ne_eq]

def StartsWith (word t : Text) : Prop :=
  ∃ rest, t = word ++ rest

theorem startsWith_iff {word : Text} : StartsWith word t ↔ ∃ rest, after? word t = some rest := by
  simp only [StartsWith, after?_eq_some_iff]

/-- The first occurrence of a word is its leftmost place. -/
theorem afterFirst?_eq_some_iff {word rest : Text} :
    afterFirst? word t = some rest ↔
      ∃ before, Leftmost (StartsWith word) t before (word ++ rest) := by
  rw [afterFirst?, firstAt_eq_some_iff_leftmost fun _ => startsWith_iff]
  simp only [after?_eq_some_iff]
  constructor
  · rintro ⟨before, _, h, rfl⟩
    exact ⟨before, h⟩
  · rintro ⟨before, h⟩
    exact ⟨before, _, h, rfl⟩

theorem afterFirst?_eq_none_iff {word : Text} :
    afterFirst? word t = none ↔ ∀ before ending, t = before ++ ending → ¬ StartsWith word ending :=
  firstAt_eq_none_iff_forall_not fun _ => startsWith_iff

end Conformance.Text
