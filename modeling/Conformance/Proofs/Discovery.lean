import Conformance.Discovery
import Conformance.Proofs.FileTree
import Mathlib.Data.Char
import Mathlib.Data.List.Nodup
import Mathlib.Data.List.Sort
import Mathlib.Tactic.MkIffOfInductiveProp

/-!
What a search for scripts finds.  A search of a folder either finds the scripts below it, each once
(`Searched.found`), or stops at a folder that it reaches and cannot read (`Searched.stopped`).  The
search of a folder is followed entry by entry, one entry being searched like the folder that holds
nothing else.
-/

namespace Conformance

namespace Filter

/-- A name is kept when it does not hold the segment that leaves names out, if there is one. -/
def Keeps (f : Filter) (name : Text) : Prop :=
  f.excluded = [] ∨ ¬ f.excluded <:+: name

theorem skips_iff {f : Filter} {name : Text} : f.skips name = true ↔ ¬ f.Keeps name := by
  have hcontains : Text.contains name f.excluded = true ↔ f.excluded <:+: name := by
    rw [Text.contains_iff]
    exact exists₂_congr fun _ _ => eq_comm
  simp [skips, Keeps, hcontains]

theorem selects_iff {f : Filter} {name : Text} :
    f.selects name = true ↔ Path.HasExtension name f.extension := by
  rw [selects, decide_eq_true_eq, Path.extension?_eq_some_iff]

end Filter

namespace Discovery

/-- A row of names leads from a folder to a script: to something that is no folder, under kept names
only, the last of which has the extension of scripts. -/
@[mk_iff]
structure IsScript (f : Filter) (top : FileTree) (row : List Text) : Prop where
  kept : ∀ name ∈ row, f.Keeps name
  leaf : ∃ node, top.Holds row node ∧ ¬ node.IsFolder
  named : ∃ front name, row = front ++ [name] ∧ Path.HasExtension name f.extension

/-- A path is short enough to be followed. -/
def Fits (path : Path) : Prop :=
  (Text.toUtf8 path).length ≤ FileTree.maxPathBytes

/-- What keeps the folder at a path from being read: its path is too long, or it is closed. -/
inductive Unreadable (path : Path) : Bool → FileError → Prop
  | long {readable : Bool} (h : ¬ Fits path) : Unreadable path readable .nameTooLong
  | closed (h : Fits path) : Unreadable path false .accessDenied

/-- A row of kept names leads from the folder at a path to one that cannot be read. -/
@[mk_iff]
structure Obstructed (f : Filter) (path : Path) (top : FileTree) (row : List Text)
    (cause : FileError) : Prop where
  kept : ∀ name ∈ row, f.Keeps name
  reached : ∃ readable entries, top.Holds row (.folder readable entries) ∧
    Unreadable (Path.belowAll path row) readable cause

/-- The outcome of a search: the rows of all scripts, each once, when every folder that is reached
can be read, or else the folder that cannot be read. -/
inductive Searched (f : Filter) (path : Path) (top : FileTree) :
    Except DiscoveryError (List (List Text)) → Prop
  | found {rows : List (List Text)} (hclear : ∀ row cause, ¬ Obstructed f path top row cause)
      (hnodup : rows.Nodup) (hmem : ∀ row, row ∈ rows ↔ IsScript f top row) :
      Searched f path top (.ok rows)
  | stopped {row : List Text} {cause : FileError} (h : Obstructed f path top row cause) :
      Searched f path top (.error ⟨Path.belowAll path row, cause⟩)

section Entries

variable {f : Filter} {path : Path} {name other : Text} {child : FileTree} {row : List Text}
  {cause : FileError}

theorem not_isScript_nil {top : FileTree} : ¬ IsScript f top [] := by
  rintro ⟨-, -, front, name, hrow, -⟩
  simp at hrow

theorem isScript_cons_iff (entry : Text × FileTree) (rest : List (Text × FileTree)) :
    IsScript f (.folder true (entry :: rest)) row ↔
      IsScript f (.folder true [entry]) row ∨ IsScript f (.folder true rest) row := by
  cases row with
  | nil => simp [not_isScript_nil]
  | cons name row =>
      simp only [isScript_iff, FileTree.holds_cons_cons_iff true entry rest, or_and_right,
        exists_or, and_or_left]

theorem isScript_leaf_iff (hchild : ¬ child.IsFolder) :
    IsScript f (.folder true [(name, child)]) row ↔
      row = [name] ∧ f.Keeps name ∧ Path.HasExtension name f.extension := by
  constructor
  · rintro ⟨hkept, ⟨node, hnode, -⟩, front, last, rfl, hlast⟩
    cases front with
    | nil =>
        obtain ⟨rfl, -⟩ := FileTree.holds_singleton_iff.1 hnode
        exact ⟨rfl, hkept last (by simp), hlast⟩
    | cons first front =>
        obtain ⟨rfl, hbelow⟩ := FileTree.holds_singleton_iff.1 hnode
        have hnil : front ++ [last] = [] := (hbelow.eq_of_not_isFolder hchild).1
        simp at hnil
  · rintro ⟨rfl, hname, hextension⟩
    have hchild' : (FileTree.folder true [(name, child)]).Holds [name] child :=
      FileTree.holds_singleton_iff.2 ⟨rfl, .here child⟩
    exact ⟨by simpa using hname, ⟨child, hchild', hchild⟩, [], name, rfl, hextension⟩

theorem isScript_folder_iff (hchild : child.IsFolder) :
    IsScript f (.folder true [(name, child)]) row ↔
      ∃ below, row = name :: below ∧ f.Keeps name ∧ IsScript f child below := by
  constructor
  · rintro ⟨hkept, ⟨node, hnode, hleaf⟩, front, last, rfl, hlast⟩
    cases front with
    | nil =>
        obtain ⟨rfl, hbelow⟩ := FileTree.holds_singleton_iff.1 hnode
        cases hbelow
        exact absurd hchild hleaf
    | cons first front =>
        obtain ⟨rfl, hbelow⟩ := FileTree.holds_singleton_iff.1 hnode
        obtain ⟨hname, hrow⟩ := List.forall_mem_cons.1 hkept
        exact ⟨front ++ [last], rfl, hname, hrow, ⟨node, hbelow, hleaf⟩, front, last, rfl, hlast⟩
  · rintro ⟨below, rfl, hname, hkept, ⟨node, hnode, hleaf⟩, front, last, rfl, hlast⟩
    have hnode' : (FileTree.folder true [(name, child)]).Holds (name :: (front ++ [last])) node :=
      FileTree.holds_singleton_iff.2 ⟨rfl, hnode⟩
    exact ⟨List.forall_mem_cons.2 ⟨hname, hkept⟩, ⟨node, hnode', hleaf⟩, name :: front, last, rfl,
      hlast⟩

theorem IsScript.keeps_entry (h : IsScript f (.folder true [(name, child)]) row) :
    f.Keeps name := by
  by_cases hfolder : child.IsFolder
  · obtain ⟨below, -, hkept, -⟩ := (isScript_folder_iff hfolder).1 h
    exact hkept
  · exact ((isScript_leaf_iff hfolder).1 h).2.1

theorem IsScript.exists_entry {entries : List (Text × FileTree)}
    (h : IsScript f (.folder true entries) row) :
    ∃ first below, row = first :: below ∧ first ∈ entries.map Prod.fst := by
  cases row with
  | nil => exact absurd h not_isScript_nil
  | cons first below =>
      obtain ⟨node, hnode, -⟩ := h.leaf
      obtain ⟨child, hentry, -⟩ := FileTree.holds_cons_iff.1 hnode
      exact ⟨first, below, rfl, List.mem_map_of_mem hentry⟩

theorem obstructed_nil_iff {readable : Bool} {entries : List (Text × FileTree)} :
    Obstructed f path (.folder readable entries) [] cause ↔ Unreadable path readable cause := by
  constructor
  · rintro ⟨-, readable, entries, hnode, hunreadable⟩
    cases hnode
    exact hunreadable
  · intro hunreadable
    exact ⟨by simp, readable, entries, .here _, hunreadable⟩

theorem not_obstructed_nil {entries : List (Text × FileTree)} (hfits : Fits path) :
    ¬ Obstructed f path (.folder true entries) [] cause := by
  rw [obstructed_nil_iff]
  rintro ⟨hlong⟩
  exact hlong hfits

theorem obstructed_cons_iff (entry : Text × FileTree) (rest : List (Text × FileTree)) :
    Obstructed f path (.folder true (entry :: rest)) row cause ↔
      Obstructed f path (.folder true [entry]) row cause ∨
        Obstructed f path (.folder true rest) row cause := by
  cases row with
  | nil => simp only [obstructed_nil_iff, or_self]
  | cons name row =>
      simp only [obstructed_iff, FileTree.holds_cons_cons_iff true entry rest, or_and_right,
        exists_or, and_or_left]

theorem obstructed_entry_iff :
    Obstructed f path (.folder true [(name, child)]) (other :: row) cause ↔
      other = name ∧ f.Keeps name ∧ Obstructed f (Path.below path name) child row cause := by
  constructor
  · rintro ⟨hkept, readable, entries, hnode, hunreadable⟩
    obtain ⟨rfl, hbelow⟩ := FileTree.holds_singleton_iff.1 hnode
    obtain ⟨hname, hrow⟩ := List.forall_mem_cons.1 hkept
    exact ⟨rfl, hname, hrow, readable, entries, hbelow, hunreadable⟩
  · rintro ⟨rfl, hname, hrow, readable, entries, hnode, hunreadable⟩
    refine ⟨List.forall_mem_cons.2 ⟨hname, hrow⟩, readable, entries, ?_, hunreadable⟩
    exact FileTree.holds_singleton_iff.2 ⟨rfl, hnode⟩

/-- Nothing obstructs the search of what is no folder. -/
theorem not_obstructed_leaf (hchild : ¬ child.IsFolder) : ¬ Obstructed f path child row cause := by
  rintro ⟨-, readable, entries, hnode, -⟩
  exact hchild ⟨readable, entries, (hnode.eq_of_not_isFolder hchild).2.symm⟩

theorem not_obstructed_entry (hfits : Fits path)
    (h : f.Keeps name → ∀ row cause, ¬ Obstructed f (Path.below path name) child row cause) :
    ∀ row cause, ¬ Obstructed f path (.folder true [(name, child)]) row cause := by
  intro row cause hobstructed
  cases row with
  | nil => exact not_obstructed_nil hfits hobstructed
  | cons other row =>
      obtain ⟨-, hname, hbelow⟩ := obstructed_entry_iff.1 hobstructed
      exact h hname row cause hbelow

end Entries

namespace Searched

variable {f : Filter} {path : Path} {name : Text} {child : FileTree}

theorem empty (hfits : Fits path) : Searched f path (.folder true []) (.ok []) := by
  refine .found ?_ List.nodup_nil ?_
  · rintro (_ | ⟨name, row⟩) cause hobstructed
    · exact not_obstructed_nil hfits hobstructed
    · obtain ⟨readable, entries, hnode, -⟩ := hobstructed.reached
      simp [FileTree.holds_cons_iff] at hnode
  · intro row
    simp only [List.not_mem_nil, false_iff]
    intro hscript
    obtain ⟨first, below, -, hfirst⟩ := hscript.exists_entry
    simp at hfirst

theorem skipped (hfits : Fits path) (hname : ¬ f.Keeps name) :
    Searched f path (.folder true [(name, child)]) (.ok []) := by
  refine .found (not_obstructed_entry hfits fun h => absurd h hname) List.nodup_nil ?_
  intro row
  simp only [List.not_mem_nil, false_iff]
  intro hscript
  exact hname hscript.keeps_entry

theorem leaf (hfits : Fits path) (hname : f.Keeps name) (hchild : ¬ child.IsFolder) :
    Searched f path (.folder true [(name, child)])
      (.ok (if f.selects name then [[name]] else [])) := by
  refine .found (not_obstructed_entry hfits fun _ _ _ => not_obstructed_leaf hchild) ?_ ?_
  · split <;> simp
  · intro row
    rw [isScript_leaf_iff hchild]
    by_cases hselected : f.selects name = true
    · simp [hselected, hname, Filter.selects_iff.1 hselected]
    · have hextension := mt Filter.selects_iff.2 hselected
      simp [hselected, hextension]

/-- What is found in a folder is found below its name in the folder around it. -/
theorem folder (hfits : Fits path) (hname : f.Keeps name) (hchild : child.IsFolder)
    {result : Except DiscoveryError (List (List Text))}
    (h : Searched f (Path.below path name) child result) :
    Searched f path (.folder true [(name, child)]) (result.map (List.map (name :: ·))) := by
  cases h with
  | stopped h => exact .stopped (obstructed_entry_iff.2 ⟨rfl, hname, h⟩)
  | found hclear hnodup hmem =>
      refine .found (not_obstructed_entry hfits fun _ => hclear)
        (hnodup.map List.cons_injective) ?_
      intro row
      rw [List.mem_map, isScript_folder_iff hchild]
      constructor
      · rintro ⟨below, hbelow, rfl⟩
        exact ⟨below, rfl, hname, (hmem below).1 hbelow⟩
      · rintro ⟨below, rfl, -, hbelow⟩
        exact ⟨below, (hmem below).2 hbelow, rfl⟩

/-- The first entry that cannot be searched stops the search of a folder.  Entries of different
names have no script in common. -/
theorem cons {entry : Text × FileTree} {rest : List (Text × FileTree)}
    (hentry : entry.1 ∉ rest.map Prod.fst) {first others : Except DiscoveryError (List (List Text))}
    (hfirst : Searched f path (.folder true [entry]) first)
    (hothers : Searched f path (.folder true rest) others) :
    Searched f path (.folder true (entry :: rest))
      (do let here ← first; let below ← others; return here ++ below) := by
  cases hfirst with
  | stopped h => exact .stopped ((obstructed_cons_iff entry rest).2 (.inl h))
  | found hclear hnodup hmem =>
      cases hothers with
      | stopped h => exact .stopped ((obstructed_cons_iff entry rest).2 (.inr h))
      | found hclear' hnodup' hmem' =>
          refine .found ?_ (List.nodup_append.2 ⟨hnodup, hnodup', ?_⟩) ?_
          · intro row cause hobstructed
            rcases (obstructed_cons_iff entry rest).1 hobstructed with h | h
            · exact hclear row cause h
            · exact hclear' row cause h
          · rintro row hrow other hother rfl
            obtain ⟨name, below, rfl, hname⟩ := ((hmem row).1 hrow).exists_entry
            obtain ⟨_, _, heq, hlater⟩ := ((hmem' _).1 hother).exists_entry
            cases heq
            cases List.mem_singleton.1 hname
            exact hentry hlater
          · intro row
            rw [List.mem_append, hmem, hmem', isScript_cons_iff entry rest]

end Searched

section Search

variable {f : Filter} {path : Path}

theorem searched_inEntry (hfits : Fits path) {name : Text} {child : FileTree}
    (hchild : child.IsFolder →
      Searched f (Path.below path name) child (inFolder f (Path.below path name) child)) :
    Searched f path (.folder true [(name, child)]) (inEntry f path (name, child)) := by
  by_cases hname : f.Keeps name
  · have hskips : ¬ f.skips name = true := by simpa [Filter.skips_iff] using hname
    by_cases hfolder : child.IsFolder
    · have hsearched := Searched.folder hfits hname hfolder (hchild hfolder)
      obtain ⟨readable, entries, rfl⟩ := hfolder
      unfold inEntry
      rw [if_neg hskips, if_pos rfl]
      generalize inFolder f (Path.below path name) (.folder readable entries) = result
        at hsearched ⊢
      cases result <;> exact hsearched
    · have hleaf := Searched.leaf hfits hname hfolder
      cases child with
      | folder readable entries => exact absurd (FileTree.isFolder_folder readable entries) hfolder
      | _ => simpa [inEntry, hskips] using hleaf
  · unfold inEntry
    rw [if_pos (Filter.skips_iff.2 hname)]
    exact .skipped hfits hname

theorem searched_inEntries (hfits : Fits path) {entries : List (Text × FileTree)}
    (hnodup : (entries.map Prod.fst).Nodup)
    (hbelow : ∀ entry ∈ entries, entry.2.IsFolder →
      Searched f (Path.below path entry.1) entry.2
        (inFolder f (Path.below path entry.1) entry.2)) :
    Searched f path (.folder true entries) (inEntries f path entries) := by
  induction entries with
  | nil => exact .empty hfits
  | cons entry rest ih =>
      rw [List.map_cons, List.nodup_cons] at hnodup
      have hfirst := searched_inEntry hfits (hbelow entry (by simp))
      have hothers := ih hnodup.2 fun other hother => hbelow other (by simp [hother])
      exact .cons hnodup.1 hfirst hothers

/-- The search of a folder of a well formed tree has one of the two outcomes. -/
theorem searched_inFolder {top : FileTree} (hform : top.WellFormed) (htop : top.IsFolder) :
    Searched f path top (inFolder f path top) := by
  -- The names of a folder are apart, so no script is found under two entries.
  induction hform generalizing path with
  | @folder readable entries hnodup hnames hbelow ih =>
      unfold inFolder
      by_cases hfits : Fits path
      · rw [if_neg (Nat.not_lt.2 hfits)]
        cases readable with
        | false =>
            have hroot : Obstructed f path (.folder false entries) [] .accessDenied :=
              obstructed_nil_iff.2 (.closed hfits)
            exact .stopped hroot
        | true => exact searched_inEntries hfits hnodup fun entry hentry => ih entry hentry
      · rw [if_pos (Nat.not_le.1 hfits)]
        have hroot : Obstructed f path (.folder readable entries) [] .nameTooLong :=
          obstructed_nil_iff.2 (.long hfits)
        exact .stopped hroot
  | _ =>
      obtain ⟨readable, entries, h⟩ := htop
      cases h

end Search

section Order

theorem nameBefore_iff {a b : Text} : nameBefore a b = true ↔ a < b := by
  rw [nameBefore, List.lex_eq_true_iff_lex]
  simp only [decide_eq_true_eq]
  exact Iff.rfl

theorem namesBefore_iff {a b : List Text} : namesBefore a b = true ↔ a < b := by
  rw [namesBefore, List.lex_eq_true_iff_lex]
  simp only [nameBefore_iff]
  exact Iff.rfl

theorem sort_perm (rows : List (List Text)) : (sort rows).Perm rows :=
  List.mergeSort_perm rows _

theorem sort_pairwise_lt {rows : List (List Text)} (h : rows.Nodup) :
    (sort rows).Pairwise (· < ·) := by
  have hle : (sort rows).Pairwise (· ≤ ·) := by
    have hiff (a b : List Text) : (!namesBefore b a) = true ↔ a ≤ b := by
      rw [Bool.not_eq_true', ← Bool.not_eq_true, namesBefore_iff, not_lt]
    have hsorted : (sort rows).Pairwise fun a b => (!namesBefore b a) = true := by
      apply List.pairwise_mergeSort
      · intro a b c hab hbc
        rw [hiff] at *
        exact hab.trans hbc
      · intro a b
        rw [Bool.or_eq_true, hiff, hiff]
        exact le_total a b
    exact hsorted.imp (hiff _ _).1
  have hdistinct := (sort_perm rows).nodup_iff.2 h
  exact (hle.and hdistinct).imp fun h => lt_of_le_of_ne h.1 h.2

theorem rows_eq_of_mem_iff {rows others : List (List Text)} (hrows : rows.Pairwise (· < ·))
    (hothers : others.Pairwise (· < ·)) (h : ∀ row, row ∈ rows ↔ row ∈ others) :
    rows = others := by
  have hperm : rows.Perm others :=
    (List.perm_ext_iff_of_nodup (hrows.imp ne_of_lt) (hothers.imp ne_of_lt)).2 h
  apply hperm.eq_of_pairwise _ hrows hothers
  intro a b _ _ hab hba
  exact absurd hba hab.asymm

end Order

theorem IsScript.isName {f : Filter} {top : FileTree} {row : List Text} (h : IsScript f top row)
    (hform : top.WellFormed) : ∀ name ∈ row, Path.IsName name := by
  obtain ⟨node, hnode, -⟩ := h.leaf
  exact hform.isName_of_holds hnode

theorem IsScript.relisted {f : Filter} {top listed : FileTree} {row : List Text}
    (h : IsScript f top row) (hlisted : FileTree.Relisted top listed) : IsScript f listed row := by
  obtain ⟨node, hnode, hleaf⟩ := h.leaf
  obtain ⟨other, hother, hrelisted⟩ := hlisted.holds hnode
  exact ⟨h.kept, ⟨other, hother, fun hfolder => hleaf (hrelisted.symm.isFolder hfolder)⟩, h.named⟩

theorem Obstructed.relisted {f : Filter} {path : Path} {top listed : FileTree} {row : List Text}
    {cause : FileError} (h : Obstructed f path top row cause)
    (hlisted : FileTree.Relisted top listed) : Obstructed f path listed row cause := by
  obtain ⟨readable, entries, hnode, hunreadable⟩ := h.reached
  obtain ⟨other, hother, hrelisted⟩ := hlisted.holds hnode
  obtain ⟨entries, rfl⟩ := hrelisted.eq_folder
  exact ⟨h.kept, readable, entries, hother, hunreadable⟩

end Discovery

section Discover

variable {f : Filter} {tree top : FileTree} {root : Path}

open Discovery

theorem discover_of_find (hfind : tree.find root = .ok top) (htop : top.IsFolder) :
    discover f tree root =
      (inFolder f root top).map fun rows => (sort rows).map (Path.belowAll root) := by
  obtain ⟨readable, entries, rfl⟩ := htop
  simp only [discover, hfind]
  cases inFolder f root (.folder readable entries) <;> rfl

theorem exists_discover_eq_ok (hfind : tree.find root = .ok top) (hform : top.WellFormed)
    (htop : top.IsFolder) (hclear : ∀ row cause, ¬ Obstructed f root top row cause) :
    ∃ rows : List (List Text), discover f tree root = .ok (rows.map (Path.belowAll root)) ∧
      rows.Pairwise (· < ·) ∧ ∀ row, row ∈ rows ↔ IsScript f top row := by
  have hsearched : Searched f root top (inFolder f root top) := searched_inFolder hform htop
  rw [discover_of_find hfind htop]
  generalize inFolder f root top = result at hsearched ⊢
  cases hsearched with
  | @found rows _ hnodup hmem =>
      refine ⟨sort rows, rfl, sort_pairwise_lt hnodup, ?_⟩
      intro row
      rw [(sort_perm rows).mem_iff, hmem]
  | stopped h => exact absurd h (hclear _ _)

theorem exists_discover_eq_error (hfind : tree.find root = .ok top) (hform : top.WellFormed)
    (htop : top.IsFolder) {row : List Text} {cause : FileError}
    (hobstructed : Obstructed f root top row cause) :
    ∃ row cause, Obstructed f root top row cause ∧
      discover f tree root = .error ⟨Path.belowAll root row, cause⟩ := by
  have hsearched : Searched f root top (inFolder f root top) := searched_inFolder hform htop
  rw [discover_of_find hfind htop]
  generalize inFolder f root top = result at hsearched ⊢
  cases hsearched with
  | found hclear => exact absurd hobstructed (hclear row cause)
  | stopped h => exact ⟨_, _, h, rfl⟩

theorem discover_eq_of_relisted {tree' top' : FileTree} (hfind : tree.find root = .ok top)
    (hfind' : tree'.find root = .ok top') (hform : top.WellFormed) (htop : top.IsFolder)
    (hclear : ∀ row cause, ¬ Obstructed f root top row cause)
    (hrelisted : FileTree.Relisted top top') : discover f tree' root = discover f tree root := by
  have hclear' : ∀ row cause, ¬ Obstructed f root top' row cause := by
    intro row cause h
    exact hclear row cause (h.relisted hrelisted.symm)
  obtain ⟨rows, hdiscover, hsorted, hmem⟩ := exists_discover_eq_ok hfind hform htop hclear
  obtain ⟨others, hdiscover', hsorted', hmem'⟩ :=
    exists_discover_eq_ok hfind' (hrelisted.wellFormed hform) (hrelisted.isFolder htop) hclear'
  have hsame : others = rows := by
    apply rows_eq_of_mem_iff hsorted' hsorted
    intro row
    rw [hmem, hmem']
    exact ⟨fun h => h.relisted hrelisted.symm, fun h => h.relisted hrelisted⟩
  rw [hdiscover, hdiscover', hsame]

/-- A search from a folder finds exactly the scripts below it, each once and in the order of their
paths, in whatever order the folders list their entries, if every folder that it reaches can be
read; else it stops at one of those that cannot.  A search from a file finds that file. -/
theorem discover_exact (hfind : tree.find root = .ok top) (hform : top.WellFormed) :
    (∀ content executable, top = .file content executable → discover f tree root = .ok [root]) ∧
    (top.IsFolder →
      ((∀ row cause, ¬ Obstructed f root top row cause) →
        ∃ paths, discover f tree root = .ok paths ∧
          (∀ path, path ∈ paths ↔ ∃ row, IsScript f top row ∧ path = Path.belowAll root row) ∧
          paths.Nodup ∧ paths.Pairwise Path.Before ∧
          ∀ tree' top', FileTree.Relisted top top' → tree'.find root = .ok top' →
            discover f tree' root = .ok paths) ∧
      ((∃ row cause, Obstructed f root top row cause) →
        ∃ row cause, Obstructed f root top row cause ∧
          discover f tree root = .error ⟨Path.belowAll root row, cause⟩)) := by
  refine ⟨?_, fun htop => ⟨?_, ?_⟩⟩
  · rintro content executable rfl
    simp only [discover, hfind]
  · intro hclear
    obtain ⟨rows, hdiscover, hsorted, hmem⟩ := exists_discover_eq_ok hfind hform htop hclear
    have hname {row : List Text} (hrow : row ∈ rows) : ∀ name ∈ row, Path.IsName name :=
      ((hmem row).1 hrow).isName hform
    refine ⟨rows.map (Path.belowAll root), hdiscover, ?_, ?_, ?_, ?_⟩
    · intro path
      simp only [List.mem_map, hmem, eq_comm]
    · refine (List.nodup_map_iff_inj_on (hsorted.imp ne_of_lt)).2 ?_
      intro a ha b hb h
      exact (Path.belowAll_inj (hname ha) (hname hb)).1 h
    · rw [List.pairwise_map]
      exact hsorted.imp_of_mem fun ha hb h => Path.before_belowAll (hname ha) (hname hb) root h
    · intro tree' top' hrelisted hfind'
      rw [discover_eq_of_relisted hfind hfind' hform htop hclear hrelisted, hdiscover]
  · rintro ⟨row, cause, hobstructed⟩
    exact exists_discover_eq_error hfind hform htop hobstructed

end Discover

section Small

open Discovery

/-- A folder with a link back to itself, with a name that comes before another one only up to a
slash, and with a closed folder that is left out. -/
def smallTree : FileTree :=
  .folder true
    [("loop.qi".toList, .link "/".toList),
      ("a-b.qi".toList, .file .empty false),
      ("benchmark".toList, .folder false []),
      ("a".toList, .folder true
        [(".qi".toList, .file .empty false), ("c.qi".toList, .file .empty false)])]

def smallFilter : Filter :=
  ⟨"qi".toList, "benchmark".toList⟩

theorem wellFormed_smallTree : smallTree.WellFormed := by
  refine .folder (by decide) (by decide) ?_
  simp only [List.forall_mem_cons]
  refine ⟨.link _, .file _ _, .folder (by decide) (by decide) (by simp), ?_, by simp⟩
  refine .folder (by decide) (by decide) ?_
  simp only [List.forall_mem_cons]
  exact ⟨.file _ _, .file _ _, by simp⟩

/-- A slash alone leads to the tree itself. -/
theorem find_slash (readable : Bool) (entries : List (Text × FileTree)) :
    (FileTree.folder readable entries).find ['/'] = .ok (.folder readable entries) := by
  have hparts : Path.names ['/'] = [[], []] := by decide
  rw [FileTree.find, FileTree.locate, if_neg (by decide), if_neg (by decide), if_neg (by decide),
    List.head?_cons, if_pos rfl, hparts]
  unfold FileTree.follow
  rw [if_pos (.inl rfl)]
  unfold FileTree.follow
  rw [if_pos (.inl rfl)]
  unfold FileTree.follow
  rfl

theorem inFolder_smallTree :
    inFolder smallFilter ['/'] smallTree =
      .ok [["loop.qi".toList], ["a-b.qi".toList], ["a".toList, "c.qi".toList]] := by
  decide

theorem obstructed_smallTree :
    Obstructed ⟨"qi".toList, []⟩ ['/'] smallTree ["benchmark".toList] .accessDenied := by
  have hclosed : smallTree.Holds ["benchmark".toList] (.folder false []) :=
    .down (by simp) (.here _)
  have hkeeps : ∀ name, Filter.Keeps ⟨"qi".toList, []⟩ name := fun _ => .inl rfl
  exact ⟨fun name _ => hkeeps name, false, [], hclosed, .closed (by unfold Fits; decide)⟩

theorem discover_exact_small :
    smallTree.find ['/'] = .ok smallTree ∧ smallTree.WellFormed ∧
      (∃ paths, discover smallFilter smallTree ['/'] = .ok paths ∧
        (∀ path, path ∈ paths ↔
          path ∈ ["/loop.qi".toList, "/a-b.qi".toList, "/a/c.qi".toList]) ∧
        paths.Nodup ∧ paths.Pairwise Path.Before) ∧
      ∃ e, discover ⟨"qi".toList, []⟩ smallTree ['/'] = .error e := by
  have hfind : smallTree.find ['/'] = .ok smallTree := find_slash _ _
  have hform := wellFormed_smallTree
  have htop : smallTree.IsFolder := FileTree.isFolder_folder _ _
  refine ⟨hfind, hform, ?_, ?_⟩
  · have hsearched : Searched smallFilter ['/'] smallTree
        (inFolder smallFilter ['/'] smallTree) := searched_inFolder hform htop
    rw [inFolder_smallTree] at hsearched
    cases hsearched with
    | found hclear _ hmem =>
        obtain ⟨paths, hpaths, hpath, hnodup, hsorted, -⟩ :=
          ((discover_exact hfind hform).2 htop).1 hclear
        refine ⟨paths, hpaths, ?_, hnodup, hsorted⟩
        intro path
        rw [hpath]
        simp only [← hmem, List.mem_cons, List.not_mem_nil, or_false, or_and_right, exists_or,
          exists_eq_left]
        exact Iff.rfl
  · obtain ⟨row, cause, -, herror⟩ :=
      ((discover_exact hfind hform).2 htop).2 ⟨_, _, obstructed_smallTree⟩
    exact ⟨_, herror⟩

end Small

end Conformance
