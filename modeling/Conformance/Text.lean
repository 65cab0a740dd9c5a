/-!
Texts as lists of characters, and lists cut into pieces at a separator.  Joining the pieces gives
the list back, no piece holds the separator, and cutting what was joined gives the pieces back.
-/

namespace Conformance

/-- A text is the list of its characters. -/
abbrev Text := List Char

/-- The test whether two texts are equal is exact. -/
instance Text.lawfulBEq : LawfulBEq Text := inferInstance

variable {α : Type}

/-- The pieces of a list between its separators; a list without separators is one piece. -/
def pieces [DecidableEq α] (sep : α) : List α → List (List α)
  | [] => [[]]
  | a :: rest =>
      if a = sep then [] :: pieces sep rest
      else
        match pieces sep rest with
        | [] => [[a]]
        | first :: others => (a :: first) :: others

/-- One list from pieces, with a separator between each piece and the next. -/
def joinWith (sep : α) : List (List α) → List α
  | [] => []
  | [piece] => piece
  | piece :: next :: others => piece ++ sep :: joinWith sep (next :: others)

@[simp] theorem pieces_nil [DecidableEq α] (sep : α) : pieces sep [] = [[]] := rfl

theorem pieces_ne_nil [DecidableEq α] (sep : α) (l : List α) : pieces sep l ≠ [] := by
  cases l with
  | nil => simp
  | cons a rest =>
      unfold pieces
      split
      · simp
      · split <;> simp

@[simp] theorem pieces_cons_self [DecidableEq α] (sep : α) (rest : List α) :
    pieces sep (sep :: rest) = [] :: pieces sep rest := by
  simp [pieces]

theorem pieces_cons_of_ne [DecidableEq α] {sep a : α} (h : a ≠ sep) {rest first : List α}
    {others : List (List α)} (hrest : pieces sep rest = first :: others) :
    pieces sep (a :: rest) = (a :: first) :: others := by
  simp [pieces, h, hrest]

theorem joinWith_cons (sep : α) (piece : List α) {others : List (List α)} (h : others ≠ []) :
    joinWith sep (piece :: others) = piece ++ sep :: joinWith sep others := by
  cases others with
  | nil => exact absurd rfl h
  | cons next others => rfl

/-- Joining the pieces of a list gives the list back. -/
theorem joinWith_pieces [DecidableEq α] (sep : α) (l : List α) :
    joinWith sep (pieces sep l) = l := by
  induction l with
  | nil => rfl
  | cons a rest ih =>
      by_cases h : a = sep
      · subst h
        simp [joinWith_cons a [] (pieces_ne_nil a rest), ih]
      · cases hrest : pieces sep rest with
        | nil => exact absurd hrest (pieces_ne_nil sep rest)
        | cons first others =>
            rw [pieces_cons_of_ne h hrest]
            rw [hrest] at ih
            cases others with
            | nil => simpa [joinWith] using ih
            | cons next others => simpa [joinWith] using ih

/-- No piece holds the separator. -/
theorem not_mem_of_mem_pieces [DecidableEq α] {sep : α} {l piece : List α}
    (h : piece ∈ pieces sep l) : sep ∉ piece := by
  induction l generalizing piece with
  | nil => simp at h; simp [h]
  | cons a rest ih =>
      by_cases ha : a = sep
      · subst ha
        simp only [pieces_cons_self, List.mem_cons] at h
        rcases h with rfl | h
        · simp
        · exact ih h
      · cases hrest : pieces sep rest with
        | nil => exact absurd hrest (pieces_ne_nil sep rest)
        | cons first others =>
            rw [pieces_cons_of_ne ha hrest, List.mem_cons] at h
            rcases h with rfl | h
            · have hfirst : sep ∉ first := ih (by simp [hrest])
              simp [hfirst, Ne.symm ha]
            · exact ih (by simp [hrest, h])

/-- A list without the separator is its only piece. -/
theorem pieces_of_not_mem [DecidableEq α] {sep : α} {l : List α} (h : sep ∉ l) :
    pieces sep l = [l] := by
  induction l with
  | nil => rfl
  | cons a rest ih =>
      simp only [List.mem_cons, not_or] at h
      exact pieces_cons_of_ne (Ne.symm h.1) (ih h.2)

/-- The pieces of a list that starts with a piece and a separator. -/
theorem pieces_append_cons [DecidableEq α] {sep : α} {piece : List α} (h : sep ∉ piece)
    (rest : List α) : pieces sep (piece ++ sep :: rest) = piece :: pieces sep rest := by
  induction piece with
  | nil => simp
  | cons a piece ih =>
      simp only [List.mem_cons, not_or] at h
      exact pieces_cons_of_ne (Ne.symm h.1) (ih h.2)

/-- Each separator divides the pieces before it from those behind it. -/
theorem pieces_append_sep [DecidableEq α] (sep : α) (front rest : List α) :
    pieces sep (front ++ sep :: rest) = pieces sep front ++ pieces sep rest := by
  induction front with
  | nil => simp
  | cons a front ih =>
      by_cases h : a = sep
      · subst h
        simp [ih]
      · obtain ⟨piece, others, hfront⟩ :=
          List.exists_cons_of_ne_nil (pieces_ne_nil sep front)
        rw [hfront, List.cons_append] at ih
        rw [List.cons_append, pieces_cons_of_ne h ih, pieces_cons_of_ne h hfront, List.cons_append]

/-- Cutting what was joined gives the pieces back. -/
theorem pieces_joinWith [DecidableEq α] {sep : α} {ps : List (List α)} (hne : ps ≠ [])
    (h : ∀ p ∈ ps, sep ∉ p) : pieces sep (joinWith sep ps) = ps := by
  induction ps with
  | nil => exact absurd rfl hne
  | cons p ps ih =>
      cases ps with
      | nil => exact pieces_of_not_mem (h p (by simp))
      | cons q ps =>
          rw [joinWith, pieces_append_cons (h p (by simp))]
          rw [ih (by simp) (fun r hr => h r (by simp [hr]))]

end Conformance
