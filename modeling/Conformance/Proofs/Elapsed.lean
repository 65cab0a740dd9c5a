import Mathlib.Data.List.DropRight
import Mathlib.Data.List.TakeWhile
import Conformance.Benchmark
import Conformance.Proofs.Line

/-!
The time that a benchmark script reports.  Only the last line that holds more than blanks counts,
and of that line only what stands between the blanks around it: neither earlier output nor blank
lines behind it, of whatever white space and with whatever line ends, change the reading.
-/

namespace Conformance

namespace Text

def IsBlank (t : Text) : Prop :=
  ∀ c ∈ t, isBlank c = true

instance (t : Text) : Decidable t.IsBlank :=
  decidable_of_iff (t.all isBlank = true) List.all_eq_true

variable {t line tail : Text}

theorem IsBlank.of_append_cons {front rest : Text} {c : Char} (h : (front ++ c :: rest).IsBlank) :
    front.IsBlank ∧ rest.IsBlank :=
  ⟨fun d hd => h d (List.mem_append_left _ hd),
    fun d hd => h d (List.mem_append_right _ (List.mem_cons_of_mem _ hd))⟩

theorem trim_eq_nil_iff : trim t = [] ↔ t.IsBlank := by
  rw [trim, ← List.rdropWhile, List.rdropWhile_eq_nil_iff]
  constructor
  · intro h c hc
    by_contra hblank
    have hkept : t.dropWhile isBlank ≠ [] := by
      rw [ne_eq, List.dropWhile_eq_nil_iff]
      exact fun hall => hblank (hall c hc)
    have hhead := List.head_dropWhile_not isBlank hkept
    rw [h _ (List.head_mem hkept)] at hhead
    cases hhead
  · intro h c hc
    exact h c ((List.dropWhile_suffix isBlank).subset hc)

/-- Blanks at the end of a text do not count. -/
theorem trim_append (t : Text) (h : tail.IsBlank) : trim (t ++ tail) = trim t := by
  rw [trim, trim, List.dropWhile_append]
  split
  · next hall =>
      rw [List.isEmpty_iff] at hall
      rw [hall, List.dropWhile_eq_nil_iff.2 h]
  · have hreverse : ∀ c ∈ tail.reverse, isBlank c = true :=
      fun c hc => h c (List.mem_reverse.1 hc)
    rw [List.reverse_append, List.dropWhile_append_of_pos hreverse]

/-- The carriage return at the end of a line is one of the blanks around its words. -/
theorem trim_chomp (line : Text) : trim (chomp line) = trim line := by
  unfold chomp
  split
  · next hlast =>
      obtain ⟨front, rfl⟩ := List.getLast?_eq_some_iff.1 hlast
      rw [List.dropLast_concat, trim_append front (by decide)]
  · rfl

/-! ### The last words of a text -/

theorem lastWords?_of_not_mem (h : '\n' ∉ line) :
    lastWords? line = if trim line = [] then none else some (trim line) := by
  rw [lastWords?, lines_of_not_mem h]
  by_cases hnil : line = []
  · rw [hnil]
    rfl
  · by_cases hwords : trim line = [] <;> simp [hnil, hwords]

/-- The words behind the first line feed go before those in front of it. -/
theorem lastWords?_line_append (h : '\n' ∉ line) (rest : Text) :
    lastWords? (line ++ '\n' :: rest) = (lastWords? rest).or (lastWords? line) := by
  rw [lastWords?_of_not_mem h, lastWords?, lines_append_cons h, List.map_cons, trim_chomp,
    List.reverse_cons, List.find?_append]
  congr 1
  by_cases hwords : trim line = [] <;> simp [hwords]

/-- The words behind any line feed go before those in front of it. -/
theorem lastWords?_append_cons (front rest : Text) :
    lastWords? (front ++ '\n' :: rest) = (lastWords? rest).or (lastWords? front) := by
  induction front using lineInduction with
  | last line hline => exact lastWords?_line_append hline rest
  | next line more hline ih =>
      rw [List.append_assoc, List.cons_append, lastWords?_line_append hline, ih,
        lastWords?_line_append hline, Option.or_assoc]

example : lastWords? "x\n 2 \n\u3000\n".toList = some ['2'] := by decide

theorem lastWords?_of_isBlank (h : t.IsBlank) : lastWords? t = none := by
  induction t using lineInduction with
  | last line hline => rw [lastWords?_of_not_mem hline, if_pos (trim_eq_nil_iff.2 h)]
  | next line rest hline ih =>
      obtain ⟨hfront, hback⟩ := h.of_append_cons
      rw [lastWords?_line_append hline, ih hback, lastWords?_of_not_mem hline,
        if_pos (trim_eq_nil_iff.2 hfront)]
      rfl

/-- Blanks behind a line with words leave these the last ones. -/
theorem lastWords?_line_append_blank (hline : '\n' ∉ line) (hwords : trim line ≠ [])
    (htail : tail.IsBlank) : lastWords? (line ++ tail) = some (trim line) := by
  have hsame : ∀ blanks : Text, '\n' ∉ blanks → blanks.IsBlank →
      lastWords? (line ++ blanks) = some (trim line) := by
    intro blanks hblanks hblank
    rw [lastWords?_of_not_mem (List.not_mem_append hline hblanks), trim_append line hblank,
      if_neg hwords]
  induction tail using lineInduction with
  | last blanks hblanks => exact hsame blanks hblanks htail
  | next blanks rest hblanks _ =>
      obtain ⟨hfront, hback⟩ := htail.of_append_cons
      rw [← List.append_assoc, lastWords?_append_cons, lastWords?_of_isBlank hback,
        hsame blanks hblanks hfront]
      rfl

end Text

namespace Benchmark

open Text (trim)

/-- The time that a script reports is the number between the blanks of its last line that is not
blank, whatever is printed before that line and whatever white space follows it; and output of
white space alone reports none. -/
theorem elapsed?_reads_last_words :
    (∀ pre line tail : Text, '\n' ∉ line → trim line ≠ [] → tail.IsBlank →
      elapsed? (line ++ tail) = Decimal.read? (trim line) ∧
      elapsed? (pre ++ '\n' :: (line ++ tail)) = Decimal.read? (trim line)) ∧
    ∀ stdout : Text, stdout.IsBlank → elapsed? stdout = none := by
  constructor
  · intro pre line tail hline hwords htail
    have hlast := Text.lastWords?_line_append_blank hline hwords htail
    constructor
    · rw [elapsed?, hlast, Option.bind_some]
    · rw [elapsed?, Text.lastWords?_append_cons, hlast, Option.some_or, Option.bind_some]
  · intro stdout hblank
    rw [elapsed?, Text.lastWords?_of_isBlank hblank]
    rfl

/-- White space of several scripts over several lines, with line ends of both kinds. -/
def paddedTail : Text :=
  " \r\n\u3000\u2028\n\t\r".toList

theorem elapsed?_reads_last_words_padded :
    '\n' ∉ "\t1.25".toList ∧ trim "\t1.25".toList ≠ [] ∧ paddedTail.IsBlank ∧
      elapsed? ("\t1.25".toList ++ paddedTail) = some 1.25 ∧
      elapsed? ("3.5\n0x".toList ++ '\n' :: ("\t1.25".toList ++ paddedTail)) = some 1.25 ∧
      elapsed? paddedTail = none := by
  have hline : '\n' ∉ "\t1.25".toList := by decide
  have hwords : trim "\t1.25".toList ≠ [] := by decide
  have htail : paddedTail.IsBlank := by decide
  have hread : Decimal.read? (trim "\t1.25".toList) = some 1.25 := by decide +kernel
  obtain ⟨hlines, hblank⟩ := elapsed?_reads_last_words
  obtain ⟨halone, hbehind⟩ := hlines "3.5\n0x".toList _ _ hline hwords htail
  exact ⟨hline, hwords, htail, halone.trans hread, hbehind.trans hread, hblank _ htail⟩

end Benchmark

end Conformance
