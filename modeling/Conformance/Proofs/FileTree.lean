import Conformance.FileTree
import Conformance.Proofs.Path
import Mathlib.Data.List.Perm.Basic

/-!
What a file tree holds.  Rows of names lead from a node through folders only, so that a link is
always the end of a row.  The order in which the entries of folders are listed changes neither what
a row leads to nor that every folder names its entries apart.
-/

namespace Conformance.FileTree

/-- A link is no folder, whatever it leads to. -/
def IsFolder (node : FileTree) : Prop :=
  ∃ readable entries, node = .folder readable entries

@[simp] theorem isFolder_folder (readable : Bool) (entries : List (Text × FileTree)) :
    (folder readable entries).IsFolder :=
  ⟨readable, entries, rfl⟩

/-- A row of names leads through folders from one node to another. -/
inductive Holds : FileTree → List Text → FileTree → Prop
  | here (node : FileTree) : Holds node [] node
  | down {readable : Bool} {entries : List (Text × FileTree)} {name : Text} {names : List Text}
      {child node : FileTree} (hentry : (name, child) ∈ entries) (hchild : Holds child names node) :
      Holds (.folder readable entries) (name :: names) node

/-- Every folder has its entries under different names, which can stand in a path. -/
inductive WellFormed : FileTree → Prop
  | file (content : ByteArray) (executable : Bool) : WellFormed (.file content executable)
  | link (target : Path) : WellFormed (.link target)
  | device (d : Device) : WellFormed (.device d)
  | folder {readable : Bool} {entries : List (Text × FileTree)}
      (hnodup : (entries.map Prod.fst).Nodup) (hnames : ∀ entry ∈ entries, Path.IsName entry.1)
      (hbelow : ∀ entry ∈ entries, WellFormed entry.2) : WellFormed (.folder readable entries)

/-- Two trees differ only in the order in which their folders list the entries. -/
inductive Relisted : FileTree → FileTree → Prop
  | refl (node : FileTree) : Relisted node node
  | trans {a b c : FileTree} (hfirst : Relisted a b) (hsecond : Relisted b c) : Relisted a c
  | perm {entries listed : List (Text × FileTree)} (readable : Bool) (h : entries.Perm listed) :
      Relisted (.folder readable entries) (.folder readable listed)
  | inside (readable : Bool) (front back : List (Text × FileTree)) (name : Text)
      {child listed : FileTree} (h : Relisted child listed) :
      Relisted (.folder readable (front ++ (name, child) :: back))
        (.folder readable (front ++ (name, listed) :: back))

theorem holds_cons_iff {readable : Bool} {entries : List (Text × FileTree)} {name : Text}
    {names : List Text} {node : FileTree} :
    (folder readable entries).Holds (name :: names) node ↔
      ∃ child, (name, child) ∈ entries ∧ child.Holds names node := by
  constructor
  · rintro (_ | ⟨hentry, hchild⟩)
    exact ⟨_, hentry, hchild⟩
  · rintro ⟨child, hentry, hchild⟩
    exact .down hentry hchild

theorem holds_singleton_iff {readable : Bool} {name first : Text} {child node : FileTree}
    {names : List Text} :
    (folder readable [(name, child)]).Holds (first :: names) node ↔
      first = name ∧ child.Holds names node := by
  rw [holds_cons_iff]
  constructor
  · rintro ⟨below, hentry, hbelow⟩
    cases List.mem_singleton.1 hentry
    exact ⟨rfl, hbelow⟩
  · rintro ⟨rfl, hchild⟩
    exact ⟨child, List.mem_singleton.2 rfl, hchild⟩

/-- Where a row leads to, it leads to through the first entry of a folder or through the others. -/
theorem holds_cons_cons_iff (readable : Bool) (entry : Text × FileTree)
    (rest : List (Text × FileTree)) {name : Text} {names : List Text} {node : FileTree} :
    (folder readable (entry :: rest)).Holds (name :: names) node ↔
      (folder readable [entry]).Holds (name :: names) node ∨
        (folder readable rest).Holds (name :: names) node := by
  simp only [holds_cons_iff, List.mem_cons, List.not_mem_nil, or_false, or_and_right, exists_or]

/-- Only the empty row leads anywhere from a node that is no folder. -/
theorem Holds.eq_of_not_isFolder {top node : FileTree} {names : List Text}
    (h : top.Holds names node) (htop : ¬ top.IsFolder) : names = [] ∧ node = top := by
  cases h with
  | here => exact ⟨rfl, rfl⟩
  | down => exact absurd (isFolder_folder _ _) htop

/-- Where a row leads to, it leads to by names of entries. -/
theorem WellFormed.isName_of_holds {top node : FileTree} {names : List Text} (htop : top.WellFormed)
    (h : top.Holds names node) : ∀ name ∈ names, Path.IsName name := by
  induction h with
  | here => simp
  | down hentry _ ih =>
      cases htop with
      | folder _ hnames hbelow =>
          intro name hname
          rcases List.mem_cons.1 hname with rfl | hname
          · exact hnames _ hentry
          · exact ih (hbelow _ hentry) name hname

namespace Relisted

theorem symm {a b : FileTree} (h : Relisted a b) : Relisted b a := by
  induction h with
  | refl node => exact .refl node
  | trans _ _ ihfirst ihsecond => exact .trans ihsecond ihfirst
  | perm readable h => exact .perm readable h.symm
  | inside readable front back name _ ih => exact .inside readable front back name ih

/-- A folder stays a folder, and stays readable or not. -/
theorem eq_folder {node : FileTree} {readable : Bool} {entries : List (Text × FileTree)}
    (h : Relisted (.folder readable entries) node) : ∃ listed, node = .folder readable listed := by
  generalize hfolder : folder readable entries = a at h
  induction h generalizing entries with
  | refl => exact ⟨entries, hfolder.symm⟩
  | trans _ _ ihfirst ihsecond =>
      obtain ⟨listed, rfl⟩ := ihfirst hfolder
      exact ihsecond rfl
  | perm => cases hfolder; exact ⟨_, rfl⟩
  | inside => cases hfolder; exact ⟨_, rfl⟩

theorem isFolder {a b : FileTree} (h : Relisted a b) (ha : a.IsFolder) : b.IsFolder := by
  obtain ⟨readable, entries, rfl⟩ := ha
  obtain ⟨listed, rfl⟩ := h.eq_folder
  exact isFolder_folder readable listed

/-- A row leads to the same in both trees, up to the order below. -/
theorem holds {a b node : FileTree} {names : List Text} (h : Relisted a b)
    (hnode : a.Holds names node) : ∃ other, b.Holds names other ∧ Relisted node other := by
  induction h generalizing names node with
  | refl => exact ⟨node, hnode, .refl node⟩
  | trans _ _ ihfirst ihsecond =>
      obtain ⟨middle, hmiddle, hfirst⟩ := ihfirst hnode
      obtain ⟨other, hother, hsecond⟩ := ihsecond hmiddle
      exact ⟨other, hother, .trans hfirst hsecond⟩
  | perm readable hperm =>
      cases hnode with
      | here => exact ⟨_, .here _, .perm readable hperm⟩
      | down hentry hchild => exact ⟨node, .down (hperm.mem_iff.1 hentry) hchild, .refl node⟩
  | inside readable front back name hchild ih =>
      cases hnode with
      | here => exact ⟨_, .here _, .inside readable front back name hchild⟩
      | down hentry hbelow =>
          rcases List.mem_append.1 hentry with hfront | hback
          · exact ⟨node, .down (List.mem_append_left _ hfront) hbelow, .refl node⟩
          rcases List.mem_cons.1 hback with hsame | hback
          · cases hsame
            obtain ⟨other, hother, hrelisted⟩ := ih hbelow
            exact ⟨other, .down (by simp) hother, hrelisted⟩
          · exact ⟨node, .down (by simp [hback]) hbelow, .refl node⟩

theorem wellFormed {a b : FileTree} (h : Relisted a b) (ha : a.WellFormed) : b.WellFormed := by
  induction h with
  | refl => exact ha
  | trans _ _ ihfirst ihsecond => exact ihsecond (ihfirst ha)
  | perm readable hperm =>
      cases ha with
      | folder hnodup hnames hbelow =>
          refine .folder ((hperm.map Prod.fst).nodup_iff.1 hnodup) ?_ ?_
          · intro entry hentry
            exact hnames entry (hperm.mem_iff.2 hentry)
          · intro entry hentry
            exact hbelow entry (hperm.mem_iff.2 hentry)
  | inside readable front back name _ ih =>
      cases ha with
      | folder hnodup hnames hbelow =>
          simp only [List.forall_mem_append, List.forall_mem_cons] at hnames hbelow
          refine .folder (by simpa using hnodup) ?_ ?_
          · simpa only [List.forall_mem_append, List.forall_mem_cons] using hnames
          · simp only [List.forall_mem_append, List.forall_mem_cons]
            exact ⟨hbelow.1, ih hbelow.2.1, hbelow.2.2⟩

end Relisted

end Conformance.FileTree
