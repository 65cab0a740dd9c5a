import Conformance.Text

/-!
Reading a text from the front and searching it.  `firstAt read` gives the answer on the longest
ending that `read` accepts, which is the leftmost place of the text; `lastAt read` gives the answer
on the shortest one, the rightmost place.
-/

namespace Conformance

variable {α : Type}

namespace Text

/-- What follows a word that the text starts with. -/
def after? : Text → Text → Option Text
  | [], t => some t
  | _ :: _, [] => none
  | c :: word, d :: t => if c = d then after? word t else none

/-- The answer of `read` on the longest ending that it accepts. -/
def firstAt (read : Text → Option α) : Text → Option α
  | [] => read []
  | c :: t => (read (c :: t)).orElse fun _ => firstAt read t

/-- The answer of `read` on the shortest ending that it accepts. -/
def lastAt (read : Text → Option α) : Text → Option α
  | [] => read []
  | c :: t => (lastAt read t).orElse fun _ => read (c :: t)

/-- What follows the first occurrence of a word. -/
def afterFirst? (word : Text) (t : Text) : Option Text :=
  firstAt (after? word) t

def contains (t word : Text) : Bool :=
  (afterFirst? word t).isSome

/-- The part of the text before its first line feed. -/
def restOfLine (t : Text) : Text :=
  t.takeWhile (· ≠ '\n')

theorem after?_eq_some_iff {word t rest : Text} :
    after? word t = some rest ↔ t = word ++ rest := by
  induction word generalizing t with
  | nil => simp [after?, eq_comm]
  | cons c word ih =>
      cases t with
      | nil => simp [after?]
      | cons d t =>
          by_cases h : c = d
          · subst h; simp [after?, ih]
          · simp [after?, h, Ne.symm h]

@[simp] theorem after?_append (word rest : Text) : after? word (word ++ rest) = some rest :=
  after?_eq_some_iff.2 rfl

theorem firstAt_cons_of_some {read : Text → Option α} {c : Char} {t : Text} {a : α}
    (h : read (c :: t) = some a) : firstAt read (c :: t) = some a := by
  simp [firstAt, h]

theorem firstAt_cons_of_none {read : Text → Option α} {c : Char} {t : Text}
    (h : read (c :: t) = none) : firstAt read (c :: t) = firstAt read t := by
  simp [firstAt, h]

/-- A search fails exactly when no ending of the text is accepted. -/
theorem firstAt_eq_none_iff {read : Text → Option α} {t : Text} :
    firstAt read t = none ↔ ∀ before ending, t = before ++ ending → read ending = none := by
  induction t with
  | nil =>
      constructor
      · intro h before ending heq
        obtain ⟨rfl, rfl⟩ := List.append_eq_nil_iff.1 heq.symm
        exact h
      · intro h; exact h [] [] rfl
  | cons c t ih =>
      constructor
      · intro h before ending heq
        cases hread : read (c :: t) with
        | some a => simp [firstAt, hread] at h
        | none =>
            rw [firstAt_cons_of_none hread] at h
            cases before with
            | nil => rw [List.nil_append] at heq; rw [← heq]; exact hread
            | cons d before =>
                simp only [List.cons_append, List.cons.injEq] at heq
                exact ih.1 h before ending heq.2
      · intro h
        rw [firstAt_cons_of_none (h [] (c :: t) rfl)]
        exact ih.2 fun before ending heq => h (c :: before) ending (by simp [heq])

/-- A search answers with the reading of an ending that no longer ending precedes. -/
theorem firstAt_eq_some_iff {read : Text → Option α} {t : Text} {a : α} :
    firstAt read t = some a ↔
      ∃ before ending, t = before ++ ending ∧ read ending = some a ∧
        ∀ front back, before = front ++ back → back ≠ [] → read (back ++ ending) = none := by
  induction t with
  | nil =>
      constructor
      · intro h
        refine ⟨[], [], rfl, h, ?_⟩
        intro front back heq hback
        exact absurd (List.append_eq_nil_iff.1 heq.symm).2 hback
      · rintro ⟨before, ending, heq, hread, -⟩
        obtain ⟨rfl, rfl⟩ := List.append_eq_nil_iff.1 heq.symm
        exact hread
  | cons c t ih =>
      cases hread : read (c :: t) with
      | some b =>
          rw [firstAt_cons_of_some hread]
          constructor
          · rintro ⟨⟩
            refine ⟨[], c :: t, rfl, hread, ?_⟩
            intro front back heq hback
            exact absurd (List.append_eq_nil_iff.1 heq.symm).2 hback
          · rintro ⟨before, ending, heq, hend, hfirst⟩
            cases before with
            | nil => rw [List.nil_append] at heq; rw [← heq, hread] at hend; exact hend
            | cons d before =>
                have := hfirst [] (d :: before) rfl (by simp)
                rw [← heq, hread] at this
                cases this
      | none =>
          rw [firstAt_cons_of_none hread, ih]
          constructor
          · rintro ⟨before, ending, heq, hend, hfirst⟩
            refine ⟨c :: before, ending, by simp [heq], hend, ?_⟩
            intro front back hsplit hback
            cases front with
            | nil =>
                rw [List.nil_append] at hsplit
                rw [← hsplit, List.cons_append, ← heq]
                exact hread
            | cons d front =>
                simp only [List.cons_append, List.cons.injEq] at hsplit
                exact hfirst front back hsplit.2 hback
          · rintro ⟨before, ending, heq, hend, hfirst⟩
            cases before with
            | nil =>
                rw [List.nil_append] at heq
                rw [← heq, hread] at hend
                cases hend
            | cons d before =>
                simp only [List.cons_append, List.cons.injEq] at heq
                refine ⟨before, ending, heq.2, hend, ?_⟩
                intro front back hsplit hback
                exact hfirst (d :: front) back (by simp [hsplit]) hback

theorem lastAt_cons_of_some {read : Text → Option α} {c : Char} {t : Text} {a : α}
    (h : lastAt read t = some a) : lastAt read (c :: t) = some a := by
  simp [lastAt, h]

theorem lastAt_cons_of_none {read : Text → Option α} {c : Char} {t : Text}
    (h : lastAt read t = none) : lastAt read (c :: t) = read (c :: t) := by
  simp [lastAt, h]

/-- A search from the end fails exactly when no ending of the text is accepted. -/
theorem lastAt_eq_none_iff {read : Text → Option α} {t : Text} :
    lastAt read t = none ↔ ∀ before ending, t = before ++ ending → read ending = none := by
  induction t with
  | nil =>
      constructor
      · intro h before ending heq
        obtain ⟨rfl, rfl⟩ := List.append_eq_nil_iff.1 heq.symm
        exact h
      · intro h; exact h [] [] rfl
  | cons c t ih =>
      constructor
      · intro h before ending heq
        cases hrest : lastAt read t with
        | some a => simp [lastAt_cons_of_some hrest] at h
        | none =>
            rw [lastAt_cons_of_none hrest] at h
            cases before with
            | nil => rw [List.nil_append] at heq; rw [← heq]; exact h
            | cons d before =>
                simp only [List.cons_append, List.cons.injEq] at heq
                exact ih.1 hrest before ending heq.2
      · intro h
        have hrest : lastAt read t = none :=
          ih.2 fun before ending heq => h (c :: before) ending (by simp [heq])
        rw [lastAt_cons_of_none hrest]
        exact h [] (c :: t) rfl

/-- A search from the end answers with the reading of an ending that has no shorter accepted
ending. -/
theorem lastAt_eq_some_iff {read : Text → Option α} {t : Text} {a : α} :
    lastAt read t = some a ↔
      ∃ before ending, t = before ++ ending ∧ read ending = some a ∧
        ∀ front back, ending = front ++ back → front ≠ [] → read back = none := by
  induction t with
  | nil =>
      constructor
      · intro h
        refine ⟨[], [], rfl, h, ?_⟩
        intro front back heq hfront
        exact absurd (List.append_eq_nil_iff.1 heq.symm).1 hfront
      · rintro ⟨before, ending, heq, hread, -⟩
        obtain ⟨rfl, rfl⟩ := List.append_eq_nil_iff.1 heq.symm
        exact hread
  | cons c t ih =>
      by_cases hrest : lastAt read t = none
      · rw [lastAt_cons_of_none hrest]
        rw [lastAt_eq_none_iff] at hrest
        constructor
        · intro hread
          refine ⟨[], c :: t, rfl, hread, ?_⟩
          intro front back heq hfront
          obtain ⟨d, front, rfl⟩ := List.exists_cons_of_ne_nil hfront
          simp only [List.cons_append, List.cons.injEq] at heq
          exact hrest front back heq.2
        · rintro ⟨before, ending, heq, hend, -⟩
          cases before with
          | nil => rw [List.nil_append] at heq; rw [heq]; exact hend
          | cons d before =>
              simp only [List.cons_append, List.cons.injEq] at heq
              rw [hrest before ending heq.2] at hend
              cases hend
      · obtain ⟨b, hb⟩ := Option.ne_none_iff_exists'.1 hrest
        rw [lastAt_cons_of_some hb, ← hb, ih]
        constructor
        · rintro ⟨before, ending, heq, hend, hlast⟩
          exact ⟨c :: before, ending, by simp [heq], hend, hlast⟩
        · rintro ⟨before, ending, heq, hend, hlast⟩
          cases before with
          | nil =>
              -- An ending of the tail is accepted too, and it is shorter than the whole text.
              exfalso
              apply hrest
              rw [lastAt_eq_none_iff]
              intro front back hsplit
              exact hlast (c :: front) back (by rw [← List.nil_append ending, ← heq, hsplit]; rfl)
                (by simp)
          | cons d before =>
              simp only [List.cons_append, List.cons.injEq] at heq
              exact ⟨before, ending, heq.2, hend, hlast⟩

/-- A word is contained exactly in the texts that it splits. -/
theorem contains_iff {t word : Text} : contains t word = true ↔ ∃ a b, t = a ++ word ++ b := by
  constructor
  · intro h
    obtain ⟨rest, hrest⟩ := Option.isSome_iff_exists.1 h
    obtain ⟨before, ending, heq, hread, -⟩ := firstAt_eq_some_iff.1 hrest
    exact ⟨before, rest, by rw [heq, after?_eq_some_iff.1 hread]; simp⟩
  · rintro ⟨a, b, rfl⟩
    cases hfirst : afterFirst? word (a ++ word ++ b) with
    | some rest => rw [contains, hfirst]; rfl
    | none =>
        have := firstAt_eq_none_iff.1 hfirst a (word ++ b) (by simp)
        simp at this

theorem not_mem_restOfLine (t : Text) : '\n' ∉ restOfLine t := by
  intro h
  have := List.all_eq_true.1 List.all_takeWhile '\n' h
  simp at this

end Text

end Conformance
