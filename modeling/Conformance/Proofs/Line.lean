import Mathlib.Data.List.Infix
import Mathlib.Data.List.TakeWhile
import Conformance.Suite
import Conformance.Proofs.Grammar
import Conformance.Proofs.Utf8

/-!
What the lines of a script depend on.  A line comes from its own bytes alone, so that bytes that are
no text do not reach any other line; and only a carriage return right before a line feed belongs to
the end of a line, so that a script reads the same under either kind of line end.
-/

namespace Conformance

namespace Text

/-! ### Texts line by line -/

/-- A text is a line, or it goes on behind the line feed that ends its first line. -/
@[elab_as_elim]
theorem lineInduction {motive : Text → Prop} (last : ∀ line, '\n' ∉ line → motive line)
    (next : ∀ line rest, '\n' ∉ line → motive rest → motive (line ++ '\n' :: rest)) (t : Text) :
    motive t := by
  have hjoined : ∀ ps : List Text, ps ≠ [] → (∀ piece ∈ ps, '\n' ∉ piece) →
      motive (joinWith '\n' ps) := by
    intro ps hne hpieces
    induction ps with
    | nil => exact absurd rfl hne
    | cons piece ps ih =>
        have hpiece := hpieces piece List.mem_cons_self
        by_cases hps : ps = []
        · subst hps
          exact last piece hpiece
        · rw [joinWith_cons '\n' piece hps]
          apply next piece _ hpiece
          exact ih hps fun other hother => hpieces other (List.mem_cons_of_mem piece hother)
  have ht := hjoined (pieces '\n' t) (pieces_ne_nil '\n' t) fun _ => not_mem_of_mem_pieces
  rwa [joinWith_pieces] at ht

variable {line : Text}

theorem chomp_of_getLast?_ne (h : line.getLast? ≠ some '\r') : chomp line = line :=
  if_neg h

theorem linesOfPieces_cons (line : Text) {rest : List Text} (h : rest ≠ []) :
    linesOfPieces (line :: rest) = chomp line :: linesOfPieces rest := by
  cases rest with
  | nil => exact absurd rfl h
  | cons next rest => rfl

theorem lines_of_not_mem (h : '\n' ∉ line) : lines line = if line = [] then [] else [line] := by
  rw [lines, pieces_of_not_mem h]
  rfl

theorem lines_append_cons (h : '\n' ∉ line) (rest : Text) :
    lines (line ++ '\n' :: rest) = chomp line :: lines rest := by
  rw [lines, pieces_append_cons h, linesOfPieces_cons line (pieces_ne_nil '\n' rest)]
  rfl

/-- Each line comes from the piece of its own number; the last piece is a line unless it is
empty. -/
theorem getElem?_linesOfPieces (ps : List Text) (i : Nat) :
    (linesOfPieces ps)[i]? =
      if i + 1 < ps.length then ps[i]?.map chomp else ps[i]?.filter (· ≠ []) := by
  induction ps generalizing i with
  | nil => rfl
  | cons piece ps ih =>
      by_cases hps : ps = []
      · subst hps
        by_cases hpiece : piece = []
        · cases i <;> simp [linesOfPieces, Option.filter_some, hpiece]
        · cases i <;> simp [linesOfPieces, Option.filter_some, hpiece]
      · have hpos := List.length_pos_iff.2 hps
        rw [linesOfPieces_cons piece hps]
        cases i with
        | zero => simp [hpos]
        | succ i => simp [ih]

/-! ### Line ends -/

/-- The text with a carriage return before each line feed. -/
def withReturns (t : Text) : Text :=
  t.flatMap fun c => if c = '\n' then ['\r', '\n'] else [c]

theorem withReturns_of_not_mem (h : '\n' ∉ line) : withReturns line = line := by
  induction line with
  | nil => rfl
  | cons c line ih =>
      rw [List.mem_cons, not_or] at h
      have hc : c ≠ '\n' := Ne.symm h.1
      have hline : withReturns line = line := ih h.2
      rw [withReturns] at hline
      simp [withReturns, hc, hline]

theorem withReturns_append_cons (h : '\n' ∉ line) (rest : Text) :
    withReturns (line ++ '\n' :: rest) = (line ++ ['\r']) ++ '\n' :: withReturns rest := by
  have hline := withReturns_of_not_mem h
  rw [withReturns] at hline
  simp [withReturns, hline]

/-- Without a carriage return before a line feed, no line ends in a carriage return. -/
theorem getLast?_ne_and_not_infix {rest : Text} (h : ¬ "\r\n".toList <:+: line ++ '\n' :: rest) :
    line.getLast? ≠ some '\r' ∧ ¬ "\r\n".toList <:+: rest := by
  constructor
  · intro hlast
    obtain ⟨front, rfl⟩ := List.getLast?_eq_some_iff.1 hlast
    exact h ⟨front, rest, by simp⟩
  · intro hrest
    exact h (hrest.trans ⟨line ++ ['\n'], [], by simp⟩)

theorem lines_withReturns {t : Text} (h : ¬ "\r\n".toList <:+: t) :
    lines (withReturns t) = lines t := by
  induction t using lineInduction with
  | last line hline => rw [withReturns_of_not_mem hline]
  | next line rest hline ih =>
      obtain ⟨hlast, hrest⟩ := getLast?_ne_and_not_infix h
      have hreturn : '\n' ∉ line ++ ['\r'] := List.not_mem_append hline (by decide)
      rw [withReturns_append_cons hline, lines_append_cons hreturn, chomp_concat_return, ih hrest,
        lines_append_cons hline, chomp_of_getLast?_ne hlast]

/-- Without a carriage return before a line feed, the lines are the pieces between line feeds; an
empty last piece is no line. -/
theorem pieces_eq_lines {t : Text} (h : ¬ "\r\n".toList <:+: t) :
    pieces '\n' t = lines t ∨ pieces '\n' t = lines t ++ [[]] := by
  induction t using lineInduction with
  | last line hline =>
      rw [pieces_of_not_mem hline, lines_of_not_mem hline]
      by_cases hnil : line = []
      · exact Or.inr (by simp [hnil])
      · exact Or.inl (by simp [hnil])
  | next line rest hline ih =>
      obtain ⟨hlast, hrest⟩ := getLast?_ne_and_not_infix h
      rw [pieces_append_cons hline, lines_append_cons hline, chomp_of_getLast?_ne hlast]
      rcases ih hrest with hsame | hmore
      · exact Or.inl (by rw [hsame])
      · exact Or.inr (by rw [hmore, List.cons_append])

/-- A line feed at the end ends the last line, or it is one more empty line. -/
theorem lines_append_newline {t : Text} (h : t.getLast? ≠ some '\r') :
    lines (t ++ ['\n']) = lines t ∨ lines (t ++ ['\n']) = lines t ++ [[]] := by
  induction t using lineInduction with
  | last line hline =>
      rw [lines_append_cons hline, chomp_of_getLast?_ne h, lines_of_not_mem hline]
      by_cases hnil : line = []
      · exact Or.inr (by simp [hnil])
      · exact Or.inl (by simp [hnil])
  | next line rest hline ih =>
      have hrest : rest.getLast? ≠ some '\r' := by
        intro hlast
        obtain ⟨front, rfl⟩ := List.getLast?_eq_some_iff.1 hlast
        apply h
        rw [← List.cons_append, ← List.append_assoc, List.getLast?_concat]
      rw [List.append_assoc, List.cons_append, lines_append_cons hline, lines_append_cons hline]
      rcases ih hrest with hsame | hmore
      · exact Or.inl (by rw [hsame])
      · exact Or.inr (by rw [hmore, List.cons_append])

theorem restOfLine_of_not_mem (h : '\n' ∉ line) : restOfLine line = line := by
  rw [restOfLine, List.takeWhile_eq_self_iff]
  intro c hc
  exact decide_eq_true fun heq => h (heq ▸ hc)

end Text

/-! ### Markers on their lines -/

namespace Marker

open Text (Leftmost restOfLine)

def text? : Marker → Option Text
  | .exclusion => none
  | .output text => some text
  | .compileError message => some message
  | .compileErrorAt _ message => some message
  | .runtimeError message => some message

theorem exists_space_append_dropSpace (t : Text) :
    ∃ space, '\r' ∉ space ∧ t = space ++ dropSpace t := by
  unfold dropSpace
  split
  · exact ⟨[' '], by decide, rfl⟩
  · exact ⟨[], by decide, rfl⟩

theorem read?_nil : read? [] = none := rfl

/-- A marker takes the rest of its line as it stands, from the opening of its comment on; the
opening itself holds no carriage return. -/
theorem exists_opening_of_text? {line text : Text} {marker : Marker} (hline : '\n' ∉ line)
    (hread : read? line = some marker) (htext : marker.text? = some text) :
    ∃ before opening, Leftmost marker.rule.Opens line before (opening ++ text) ∧
      '\r' ∉ opening := by
  have hrest : ∀ {P : Text → Prop} {before opening t : Text},
      Leftmost P line before (opening ++ t) → restOfLine t = t := by
    intro P before opening t hplace
    apply Text.restOfLine_of_not_mem
    intro hmem
    apply hline
    rw [hplace.eq_append]
    exact List.mem_append_right before (List.mem_append_right opening hmem)
  obtain ⟨rule, -, hrule⟩ := List.exists_of_findSome?_eq_some hread
  cases rule with
  | exclusion =>
      obtain rfl := Script.rule_eq_exclusion_iff.1 (rule_and_wellFormed_of_read hrule).1
      cases htext
  | output =>
      obtain ⟨before, t, hplace, rfl⟩ := read_output_eq_some_iff.1 hrule
      cases htext
      obtain ⟨space, hspace, ht⟩ := exists_space_append_dropSpace t
      rw [hrest hplace]
      refine ⟨before, "// expect:".toList ++ space, ?_, List.not_mem_append (by decide) hspace⟩
      rw [List.append_assoc, ← ht]
      exact hplace
  | compileError =>
      obtain ⟨before, t, hplace, rfl⟩ := read_compileError_eq_some_iff.1 hrule
      cases htext
      rw [hrest hplace]
      exact ⟨before, "// ".toList, hplace, by decide⟩
  | compileErrorAt =>
      obtain ⟨before, named, t, hnamed, hplace, rfl⟩ := read_compileErrorAt_eq_some_iff.1 hrule
      cases htext
      have hnumber : '\r' ∉ named := not_mem_of_isDigits hnamed (by decide)
      rw [hrest hplace]
      refine ⟨before, "//【行 ".toList ++ named ++ ['】'], ?_,
        List.not_mem_append (List.not_mem_append (by decide) hnumber) (by decide)⟩
      have hword : "】错误".toList = ['】'] ++ errorWord := rfl
      rw [hword, ← List.append_assoc, List.append_assoc _ errorWord] at hplace
      exact hplace
  | runtimeError =>
      obtain ⟨before, t, hplace, rfl⟩ := read_runtimeError_eq_some_iff.1 hrule
      cases htext
      rw [hrest hplace]
      exact ⟨before, "// expect runtime error: ".toList, hplace, by decide⟩

end Marker

namespace Script

variable {source : Text} {marker : Marker} {number : Nat}

theorem mem_numberedLines_iff {line : Text} :
    (line, number) ∈ Text.numberedLines source ↔
      ∃ i, number = i + 1 ∧ (Text.lines source)[i]? = some line := by
  rw [Text.numberedLines, List.mem_iff_getElem?]
  simp only [List.getElem?_zipIdx, Option.map_eq_some_iff, Prod.mk.injEq]
  constructor
  · rintro ⟨i, _, hline, rfl, rfl⟩
    exact ⟨i, Nat.add_comm 1 i, hline⟩
  · rintro ⟨i, rfl, hline⟩
    exact ⟨i, line, hline, rfl, Nat.add_comm 1 i⟩

/-- The markers of a script are those of its lines, each with the number of its line. -/
theorem mem_marked_numberedLines_iff :
    (marker, number) ∈ marked (Text.numberedLines source) ↔ ∃ i line, number = i + 1 ∧
      (Text.lines source)[i]? = some line ∧ Marker.read? line = some marker := by
  simp only [marked, List.mem_filterMap, Option.map_eq_some_iff, Prod.mk.injEq, Prod.exists,
    mem_numberedLines_iff]
  constructor
  · rintro ⟨line, _, ⟨i, rfl, hline⟩, _, hread, rfl, rfl⟩
    exact ⟨i, line, rfl, hline, hread⟩
  · rintro ⟨i, line, rfl, hline, hread⟩
    exact ⟨line, i + 1, ⟨i, rfl, hline⟩, marker, hread, rfl, rfl⟩

/-- A line without a marker at the end declares nothing. -/
theorem declareLines_concat_of_none {e : Expectation} {lines : List (Text × Nat)} {line : Text}
    (h : Marker.read? line = none) (number : Nat) :
    declareLines e (lines ++ [(line, number)]) = declareLines e lines := by
  induction lines generalizing e with
  | nil => exact declareLines_cons_of_none h
  | cons head lines ih =>
      obtain ⟨text, place⟩ := head
      rw [List.cons_append]
      cases hread : Marker.read? text with
      | none => rw [declareLines_cons_of_none hread, declareLines_cons_of_none hread, ih]
      | some marker =>
          by_cases hmarker : marker = .exclusion
          · subst hmarker
            rw [declareLines_cons_of_exclusion hread, declareLines_cons_of_exclusion hread]
          · rw [declareLines_cons_of_some hread hmarker, declareLines_cons_of_some hread hmarker, ih]

theorem read_eq_of_lines_eq {source' : Text} (h : Text.lines source' = Text.lines source) :
    read source' = read source := by
  rw [read, read, Text.numberedLines, Text.numberedLines, h]

/-- One more empty line at the end declares nothing and moves no other line. -/
theorem read_of_lines_concat_nil {source' : Text}
    (h : Text.lines source' = Text.lines source ++ [[]]) : read source' = read source := by
  rw [read, read, Text.numberedLines, Text.numberedLines, h, List.zipIdx_append]
  rw [List.zipIdx_singleton, declareLines_concat_of_none Marker.read?_nil]

/-- Without a carriage return before a line feed, the markers are those of the pieces between line
feeds. -/
theorem mem_marked_iff_pieces (h : ¬ "\r\n".toList <:+: source) :
    (marker, number) ∈ marked (Text.numberedLines source) ↔ ∃ i piece, number = i + 1 ∧
      (pieces '\n' source)[i]? = some piece ∧ Marker.read? piece = some marker := by
  rw [mem_marked_numberedLines_iff]
  rcases Text.pieces_eq_lines h with hsame | hmore
  · rw [hsame]
  · -- The empty last piece is no line, and it carries no marker either.
    rw [hmore]
    constructor
    · rintro ⟨i, line, rfl, hline, hread⟩
      refine ⟨i, line, rfl, ?_, hread⟩
      rw [List.getElem?_append_left (List.getElem?_eq_some_iff.1 hline).1]
      exact hline
    · rintro ⟨i, piece, rfl, hpiece, hread⟩
      refine ⟨i, piece, rfl, ?_, hread⟩
      have hne : piece ≠ [] := by
        rintro rfl
        cases hread
      by_cases hi : i < (Text.lines source).length
      · rwa [List.getElem?_append_left hi] at hpiece
      · rw [List.getElem?_append_right (Nat.le_of_not_lt hi)] at hpiece
        have hmem := List.mem_of_getElem? hpiece
        exact absurd (List.mem_singleton.1 hmem) hne

/-- A script reads the same under either kind of line end and with or without a line feed at its
end, and a carriage return that stands alone is part of the text of its line. -/
theorem read_line_ends (source : Text) :
    (¬ "\r\n".toList <:+: source →
      read (Text.withReturns source) = read source ∧
      Text.numberedLines (Text.withReturns source) = Text.numberedLines source ∧
      (∀ marker number, (marker, number) ∈ marked (Text.numberedLines source) ↔
        ∃ i piece, number = i + 1 ∧ (pieces '\n' source)[i]? = some piece ∧
          Marker.read? piece = some marker) ∧
      ∀ piece ∈ pieces '\n' source, ∀ marker text,
        Marker.read? piece = some marker → marker.text? = some text →
          ∃ before opening, Text.Leftmost marker.rule.Opens piece before (opening ++ text) ∧
            '\r' ∉ opening) ∧
    (source.getLast? ≠ some '\r' → read (source ++ ['\n']) = read source) := by
  constructor
  · intro h
    have hlines := Text.lines_withReturns h
    refine ⟨read_eq_of_lines_eq hlines, ?_, fun marker number => mem_marked_iff_pieces h, ?_⟩
    · rw [Text.numberedLines, Text.numberedLines, hlines]
    · intro piece hpiece marker text
      exact Marker.exists_opening_of_text? (not_mem_of_mem_pieces hpiece)
  · intro h
    rcases Text.lines_append_newline h with hsame | hmore
    · exact read_eq_of_lines_eq hsame
    · exact read_of_lines_concat_nil hmore

/-- A script with carriage returns inside its lines and none before a line feed. -/
def loneReturns : Text :=
  "print 1; // expect: a\rb\n\rvar; // 错误\rx\n\r".toList

theorem read_line_ends_lone :
    ¬ "\r\n".toList <:+: loneReturns ∧
      read (Text.withReturns loneReturns) = .accepted {
        output := [⟨1, "a\rb".toList⟩]
        compileErrors := ["[2] 错误\rx".toList]
        exitCode := compileExit
        markers := 2 } ∧
      loneReturns.dropLast.getLast? ≠ some '\r' ∧
      read (loneReturns.dropLast ++ ['\n']) = read loneReturns.dropLast := by
  have hlone : ¬ "\r\n".toList <:+: loneReturns := by decide +kernel
  have hlast : loneReturns.dropLast.getLast? ≠ some '\r' := by decide +kernel
  refine ⟨hlone, ?_, hlast, (read_line_ends loneReturns.dropLast).2 hlast⟩
  rw [((read_line_ends loneReturns).1 hlone).1]
  decide +kernel

/-! ### Bytes that are no text -/

/-- Two files of as many lines, with the same bytes on every line but one. -/
structure AgreeExcept (number : Nat) (bytes bytes' : List UInt8) : Prop where
  length_eq : (pieces 0x0A bytes).length = (pieces 0x0A bytes').length
  piece_eq : ∀ i, i + 1 ≠ number → (pieces 0x0A bytes)[i]? = (pieces 0x0A bytes')[i]?

theorem AgreeExcept.getElem?_lines {bytes bytes' : List UInt8}
    (h : AgreeExcept number bytes bytes') {i : Nat} (hi : i + 1 ≠ number) :
    (Text.lines (Text.ofUtf8 bytes))[i]? = (Text.lines (Text.ofUtf8 bytes'))[i]? := by
  rw [Text.lines, Text.lines, Text.pieces_ofUtf8, Text.pieces_ofUtf8, Text.getElem?_linesOfPieces,
    Text.getElem?_linesOfPieces, List.length_map, List.length_map, List.getElem?_map,
    List.getElem?_map, h.length_eq, h.piece_eq i hi]

theorem AgreeExcept.symm {bytes bytes' : List UInt8} (h : AgreeExcept number bytes bytes') :
    AgreeExcept number bytes' bytes :=
  ⟨h.length_eq.symm, fun i hi => (h.piece_eq i hi).symm⟩

theorem AgreeExcept.mem_marked {bytes bytes' : List UInt8} (h : AgreeExcept number bytes bytes')
    {other : Nat} (hother : other ≠ number)
    (hmarker : (marker, other) ∈ marked (Text.numberedLines (Text.ofUtf8 bytes))) :
    (marker, other) ∈ marked (Text.numberedLines (Text.ofUtf8 bytes')) := by
  obtain ⟨i, line, rfl, hline, hread⟩ := mem_marked_numberedLines_iff.1 hmarker
  rw [h.getElem?_lines hother] at hline
  exact mem_marked_numberedLines_iff.2 ⟨i, line, rfl, hline, hread⟩

/-- The bytes of a file decode line by line, so that what is wrong on one line changes no marker of
another line. -/
theorem load_decodes_lines_apart {files : Path → Except FileError (List UInt8)} {script : Path}
    {bytes : List UInt8} (h : files script = .ok bytes) :
    load files script = .ok (read (joinWith '\n' ((pieces 0x0A bytes).map Text.ofUtf8))) ∧
      pieces '\n' (Text.ofUtf8 bytes) = (pieces 0x0A bytes).map Text.ofUtf8 ∧
      ∀ number bytes', AgreeExcept number bytes bytes' → ∀ marker other, other ≠ number →
        ((marker, other) ∈ marked (Text.numberedLines (Text.ofUtf8 bytes)) ↔
          (marker, other) ∈ marked (Text.numberedLines (Text.ofUtf8 bytes'))) := by
  refine ⟨?_, Text.pieces_ofUtf8 bytes, ?_⟩
  · rw [← Text.ofUtf8_joinWith, joinWith_pieces, load, h]
    rfl
  · intro number bytes' hagree marker other hother
    exact ⟨hagree.mem_marked hother, hagree.symm.mem_marked hother⟩

/-- A file whose first line stops in the middle of a character. -/
def cutFile : List UInt8 :=
  Text.toUtf8 "// expect: ".toList ++ [0xE9, 0x94] ++ Text.toUtf8 "\n// expect: 1".toList

def fullFile : List UInt8 :=
  Text.toUtf8 "// expect: 错\n// expect: 1".toList

def cutFolder : Path → Except FileError (List UInt8) :=
  fun script => if script = "cut".toList then .ok cutFile else .error .notFound

theorem load_decodes_lines_apart_cut :
    cutFolder "cut".toList = .ok cutFile ∧
      load cutFolder "cut".toList = .ok (.accepted {
        output := [⟨1, [Text.replacement]⟩, ⟨2, ['1']⟩]
        markers := 2 }) ∧
      AgreeExcept 1 cutFile fullFile ∧
      ∀ marker, (marker, 2) ∈ marked (Text.numberedLines (Text.ofUtf8 cutFile)) ↔
        (marker, 2) ∈ marked (Text.numberedLines (Text.ofUtf8 fullFile)) := by
  have hcut : pieces 0x0A cutFile =
      [Text.toUtf8 "// expect: ".toList ++ [0xE9, 0x94], Text.toUtf8 "// expect: 1".toList] := by
    decide +kernel
  have hfull : pieces 0x0A fullFile =
      [Text.toUtf8 "// expect: 错".toList, Text.toUtf8 "// expect: 1".toList] := by
    decide +kernel
  have hagree : AgreeExcept 1 cutFile fullFile := by
    refine ⟨by rw [hcut, hfull]; rfl, fun i hi => ?_⟩
    cases i with
    | zero => exact absurd rfl hi
    | succ i => rw [hcut, hfull]; rfl
  have hfile : cutFolder "cut".toList = .ok cutFile := rfl
  obtain ⟨hload, -, hothers⟩ := load_decodes_lines_apart hfile
  refine ⟨hfile, ?_, hagree, fun marker => hothers 1 fullFile hagree marker 2 (by decide)⟩
  rw [hload, hcut]
  decide +kernel

end Script

end Conformance
