import Conformance.Path
import Conformance.Text.Utf8
import Mathlib.Data.List.Lex

/-!
The steps of a path and the order of paths.  A path comes before another one when its steps do, the
first different step deciding; a slash is never compared with a character of a name.  Below one
folder, paths are therefore in the order of the rows of names that lead to them.
-/

namespace Conformance

namespace Text

theorem utf8EncodeChar_append_lt {c d : Char} (h : c < d) (s t : List UInt8) :
    String.utf8EncodeChar c ++ s < String.utf8EncodeChar d ++ t := by
  have ofNat_lt {a b : Nat} (ha : a < 256) (hb : b < 256) :
      UInt8.ofNat a < UInt8.ofNat b ↔ a < b := by
    rw [UInt8.lt_iff_toNat_lt, UInt8.toNat_ofNat_of_lt' ha, UInt8.toNat_ofNat_of_lt' hb]
  have ofNat_eq {a b : Nat} (ha : a < 256) (hb : b < 256) :
      UInt8.ofNat a = UInt8.ofNat b ↔ a = b := by
    rw [← UInt8.toNat_inj, UInt8.toNat_ofNat_of_lt' ha, UInt8.toNat_ofNat_of_lt' hb]
  have hlt : c.val.toNat < d.val.toNat := h
  have hbound : d.val.toNat < 1114112 := by
    rcases d.valid with hd | hd <;> omega
  simp only [String.utf8EncodeChar]
  generalize c.val.toNat = m at *
  generalize d.val.toNat = n at *
  -- The first byte tells how many bytes there are.  Among equally many, the first digit in base 64
  -- that differs decides.
  split_ifs <;>
    simp (disch := omega) only [List.cons_append, List.nil_append, List.cons_lt_cons_iff,
      ofNat_lt, ofNat_eq, Nat.mod_eq_of_lt] <;>
    omega

/-- The order of texts is the order of their bytes. -/
theorem toUtf8_lt_of_lt {s t : Text} (h : s < t) : toUtf8 s < toUtf8 t := by
  induction h with
  | nil =>
      rename_i c t
      have hlength : (toUtf8 (c :: t)).length ≠ 0 := by
        have := c.utf8Size_pos
        simp [toUtf8]
        omega
      cases hbytes : toUtf8 (c :: t) with
      | nil => simp [hbytes] at hlength
      | cons b bytes => exact List.nil_lt_cons b bytes
  | rel h => exact utf8EncodeChar_append_lt h _ _
  | cons _ ih => exact List.append_left_lt ih

end Text

inductive Component where
  /-- To the folder that holds everything. -/
  | top
  /-- To where one is. -/
  | stay
  /-- To the folder around. -/
  | up
  /-- To the entry of a name. -/
  | down (name : Text)
deriving DecidableEq, Repr

namespace Component

/-- The step that a part of a path stands for, if it stands for one anywhere. -/
def ofPart? (part : Text) : Option Component :=
  if part = [] ∨ part = ['.'] then none
  else if part = ['.', '.'] then some .up
  else some (.down part)

/-- The place of a kind of step among the others. -/
def rank : Component → Nat
  | .top => 0
  | .stay => 1
  | .up => 2
  | .down _ => 3

/-- Does a step come before another one?  Between two names their bytes decide. -/
def Before : Component → Component → Prop
  | .down a, .down b => Text.toUtf8 a < Text.toUtf8 b
  | a, b => a.rank < b.rank

end Component

namespace Path

/-- A text that names an entry of a folder. -/
structure IsName (name : Text) : Prop where
  ne_nil : name ≠ []
  no_slash : '/' ∉ name
  ne_dot : name ≠ ['.']
  ne_dots : name ≠ ['.', '.']

instance (name : Text) : Decidable (IsName name) :=
  decidable_of_iff (name ≠ [] ∧ '/' ∉ name ∧ name ≠ ['.'] ∧ name ≠ ['.', '.'])
    ⟨fun ⟨h, hslash, hdot, hdots⟩ => ⟨h, hslash, hdot, hdots⟩,
      fun ⟨h, hslash, hdot, hdots⟩ => ⟨h, hslash, hdot, hdots⟩⟩

/-- The step at the start of a path that an inner part never is. -/
def start (path : Path) : List Component :=
  if path.head? = some '/' then [.top]
  else if (names path).head? = some ['.'] then [.stay]
  else []

/-- The steps of a path: doubled slashes and inner dots are none. -/
def components (path : Path) : List Component :=
  start path ++ (names path).filterMap Component.ofPart?

/-- Does a path come before another one?  The first steps that differ decide. -/
def Before (p q : Path) : Prop :=
  List.Lex Component.Before (components p) (components q)

theorem names_append_slash (front rest : Path) :
    names (front ++ '/' :: rest) = names front ++ names rest :=
  pieces_append_sep '/' front rest

theorem IsName.names_eq {name : Text} (h : IsName name) : names name = [name] :=
  pieces_of_not_mem h.no_slash

theorem IsName.ofPart?_eq {name : Text} (h : IsName name) :
    Component.ofPart? name = some (.down name) := by
  simp [Component.ofPart?, h.ne_nil, h.ne_dot, h.ne_dots]

theorem IsName.head?_ne {name : Text} (h : IsName name) : name.head? ≠ some '/' := by
  intro hhead
  exact h.no_slash (List.mem_of_head? hhead)

theorem start_append_slash {front : Path} (h : front ≠ []) (rest : Path) :
    start (front ++ '/' :: rest) = start front := by
  obtain ⟨part, parts, hparts⟩ := List.exists_cons_of_ne_nil (pieces_ne_nil '/' front)
  rw [start, start, names_append_slash, List.head?_append_of_ne_nil _ h, names, hparts]
  rfl

theorem components_append_name {front : Path} (h : front ≠ []) {name : Text}
    (hname : IsName name) :
    components (front ++ '/' :: name) = components front ++ [.down name] := by
  rw [components, components, start_append_slash h, names_append_slash, hname.names_eq]
  simp [hname.ofPart?_eq]

/-- A slash at the end of a path is no step. -/
theorem components_append_slash {front : Path} (h : front ≠ []) :
    components (front ++ ['/']) = components front := by
  rw [components, components, start_append_slash h, names_append_slash]
  simp [names, Component.ofPart?]

/-- A name below a folder is one more step. -/
theorem components_below (dir : Path) {name : Text} (h : IsName name) :
    components (below dir name) = components dir ++ [.down name] := by
  rw [below, if_neg h.head?_ne]
  -- The path ends with a slash already, or is empty, or a slash is put before the name.
  by_cases hslash : dir.getLast? = some '/'
  · obtain ⟨front, rfl⟩ := List.getLast?_eq_some_iff.1 hslash
    rw [if_pos (Or.inr hslash)]
    by_cases hfront : front = []
    · subst hfront
      simp [components, start, names, pieces_of_not_mem h.no_slash, Component.ofPart?, h.ne_nil,
        h.ne_dot, h.ne_dots]
    · rw [List.append_assoc, List.singleton_append, components_append_name hfront h,
        components_append_slash hfront]
  · by_cases hnil : dir = []
    · subst hnil
      simp [components, start, names, pieces_of_not_mem h.no_slash, Component.ofPart?, h.head?_ne,
        h.ne_nil, h.ne_dot, h.ne_dots]
    · rw [if_neg (by simp [hnil, hslash]), components_append_name hnil h]

/-- A row of names below a folder is as many steps more. -/
theorem components_belowAll (dir : Path) {row : List Text} (h : ∀ name ∈ row, IsName name) :
    components (belowAll dir row) = components dir ++ row.map .down := by
  induction row generalizing dir with
  | nil => simp [belowAll]
  | cons name row ih =>
      have hbelow := ih (below dir name) fun other hother => h other (List.mem_cons_of_mem _ hother)
      rw [belowAll, List.foldl_cons, ← belowAll, hbelow, components_below dir (h name (by simp))]
      simp

/-- Different rows of names lead to different paths. -/
theorem belowAll_inj {dir : Path} {a b : List Text} (ha : ∀ name ∈ a, IsName name)
    (hb : ∀ name ∈ b, IsName name) : belowAll dir a = belowAll dir b ↔ a = b := by
  constructor
  · intro h
    have hsteps := congrArg components h
    rw [components_belowAll dir ha, components_belowAll dir hb,
      List.append_cancel_left_eq] at hsteps
    exact List.map_injective_iff.2 (fun _ _ => Component.down.inj) hsteps
  · rintro rfl
    rfl

/-- Paths below one folder come in the order of their rows of names. -/
theorem before_belowAll {a b : List Text} (ha : ∀ name ∈ a, IsName name)
    (hb : ∀ name ∈ b, IsName name) (dir : Path) (h : a < b) :
    Before (belowAll dir a) (belowAll dir b) := by
  rw [Before, components_belowAll dir ha, components_belowAll dir hb]
  apply List.Lex.append_left
  clear ha hb
  induction h with
  | nil => exact .nil
  | rel hname => exact .rel (Text.toUtf8_lt_of_lt hname)
  | cons _ ih => exact .cons ih

/-- A name has an extension when the extension stands behind its last dot and something stands
before that dot. -/
def HasExtension (name extension : Text) : Prop :=
  ∃ stem, stem ≠ [] ∧ '.' ∉ extension ∧ name = stem ++ '.' :: extension

theorem extension?_append_dot {stem extension : Text} (h : '.' ∉ extension) :
    extension? (stem ++ '.' :: extension) = if stem = [] then none else some extension := by
  simp only [extension?, pieces_append_sep, pieces_of_not_mem h, List.getLast?_append_cons,
    List.dropLast_concat, joinWith_pieces]
  cases stem <;> simp

theorem extension?_eq_some_iff {name extension : Text} :
    extension? name = some extension ↔ HasExtension name extension := by
  constructor
  · intro h
    by_cases hdot : '.' ∈ name
    · obtain ⟨back, front, hname, hback⟩ := List.eq_append_cons_of_mem (List.mem_reverse.2 hdot)
      have hsplit : name = front.reverse ++ '.' :: back.reverse := by
        rw [← List.reverse_reverse name, hname]
        simp
      rw [hsplit, extension?_append_dot (by simpa using hback)] at h
      split_ifs at h with hfront
      cases h
      exact ⟨front.reverse, hfront, by simpa using hback, hsplit⟩
    · simp [extension?, pieces_of_not_mem hdot, joinWith] at h
  · rintro ⟨stem, hstem, hextension, rfl⟩
    rw [extension?_append_dot hextension, if_neg hstem]

example : extension? ".a.qi".toList = some "qi".toList ∧ extension? ".qi".toList = none := by
  decide

end Path

end Conformance
