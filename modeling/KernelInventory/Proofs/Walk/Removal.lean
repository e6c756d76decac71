import KernelInventory.Proofs.FileTree.Removal
import KernelInventory.Proofs.Walk.Completeness

/-!
# Walks without a file

A walk of a tree without one of its regular files enters the same directories in the
same order.  It yields what the walk of the tree yields, in the same order, less what
leads to the file: the file itself, and the links to it.
-/

namespace KernelInventory

/-- Whether a path does not lead to a place. -/
def FileTree.misses (tree : FileTree) (place : Location) (path : Path) : Bool :=
  tree.locate true path ≠ .ok place

theorem FileTree.misses_iff
    {tree : FileTree} {place location : Location} {path : Path}
    (located : tree.locate true path = .ok location) :
    tree.misses place path = true ↔ location ≠ place := by
  rw [misses, located, decide_eq_true_iff]
  exact not_congr ⟨Except.ok.inj, congrArg Except.ok⟩

namespace Walk

section Scopes

variable {tree : FileTree} {place : Location} {scope : Scope}

theorem isRealDirectory_remove (holds : tree.HoldsFile place) (path : Path) :
    isRealDirectory (tree.remove place) path = isRealDirectory tree path := by
  rw [isRealDirectory, isRealDirectory, holds.isDirectory_remove, holds.isLink_remove]

/-- A walk enters no file. -/
theorem misses_of_enters
    (holds : tree.HoldsFile place)
    {below : List String}
    (entered : enters tree scope below = true) :
    tree.misses place (scope.path below) = true := by
  obtain ⟨reached, located, directory⟩ := exists_locate_of_enters entered
  exact (FileTree.misses_iff located).mpr (holds.ne_of_directory directory)

theorem enters_remove (holds : tree.HoldsFile place) (below : List String) :
    enters (tree.remove place) scope below =
      (enters tree scope below && tree.misses place (scope.path below)) := by
  have same : enters (tree.remove place) scope below = enters tree scope below := by
    rw [enters, enters, isRealDirectory_remove holds]
  rw [same]
  cases entered : enters tree scope below with
  | false => rfl
  | true => rw [misses_of_enters holds entered, Bool.and_self]

theorem takes_remove (holds : tree.HoldsFile place) (below : List String) :
    takes (tree.remove place) scope below =
      (takes tree scope below && tree.misses place (scope.path below)) := by
  rw [Bool.eq_iff_iff, Bool.and_eq_true, takes_eq_true_iff, takes_eq_true_iff,
    holds.isFile_remove_eq_true_iff, FileTree.misses, decide_eq_true_iff,
    and_right_comm]

/-- Of the entries of a directory that are kept and lead somewhere, those are left that
do not lead to the file. -/
theorem filter_children_remove
    (holds : tree.HoldsFile place)
    (wellFormed : tree.WellFormed)
    {keep keepLeft : List String → Bool}
    (same : ∀ below, keepLeft below =
      (keep below && tree.misses place (scope.path below)))
    (leads : ∀ below, keep below = true →
      ∃ reached, tree.locate true (scope.path below) = .ok reached)
    (below : List String) :
    (children (tree.remove place) scope below).filter keepLeft =
      ((children tree scope below).filter keep).filter fun entry =>
        tree.misses place (scope.path entry) := by
  rw [children, children]
  cases listed : tree.list (scope.path below) with
  | error failure =>
      obtain ⟨other, relisted⟩ := holds.exists_list_remove_error listed
      rw [relisted]
      rfl
  | ok names =>
      obtain ⟨location, located, listedAt⟩ := FileTree.of_list listed
      obtain ⟨-, -, proper⟩ := wellFormed.of_listAt listedAt
      rw [holds.list_remove wellFormed listed located]
      dsimp only
      rw [List.filter_map, List.filter_map, List.filter_map, List.filter_filter,
        List.filter_filter]
      refine congrArg _ (List.filter_congr fun name isName => ?_)
      simp only [Function.comp_apply, same, decide_not]
      rw [Bool.eq_iff_iff]
      simp only [Bool.and_eq_true, Bool.not_eq_true', decide_eq_false_iff_not]
      constructor
      · rintro ⟨⟨kept, elsewhere⟩, -⟩
        exact ⟨elsewhere, kept⟩
      · rintro ⟨elsewhere, kept⟩
        refine ⟨⟨kept, elsewhere⟩, fun there => ?_⟩
        obtain ⟨reached, found⟩ := leads _ kept
        rw [FileTree.misses, decide_eq_true_iff] at elsewhere
        rw [Scope.path_snoc] at found elsewhere
        obtain rfl := holds.eq_of_locate_child located (proper name isName) there found
        exact elsewhere found

/-- A walk enters the same directories. -/
theorem level_remove
    (holds : tree.HoldsFile place)
    (wellFormed : tree.WellFormed)
    (depth : Nat) :
    level (tree.remove place) scope depth = level tree scope depth := by
  induction depth with
  | zero => rfl
  | succ depth inductionHypothesis =>
      rw [level_succ, level_succ, inductionHypothesis]
      refine List.flatMap_congr fun below _ => ?_
      have leads : ∀ below, enters tree scope below = true →
          ∃ reached, tree.locate true (scope.path below) = .ok reached :=
        fun below entered => (exists_locate_of_enters entered).imp fun _ => And.left
      rw [filter_children_remove holds wellFormed (enters_remove holds) leads,
        List.filter_eq_self]
      exact fun entry member => misses_of_enters holds (List.mem_filter.mp member).2

theorem filesAt_remove
    (holds : tree.HoldsFile place)
    (wellFormed : tree.WellFormed)
    (depth : Nat) :
    filesAt (tree.remove place) scope depth =
      (filesAt tree scope depth).filter fun below =>
        tree.misses place (scope.path below) := by
  rw [filesAt, filesAt, level_remove holds wellFormed, List.filter_flatMap]
  exact List.flatMap_congr fun below _ => filter_children_remove holds wellFormed
    (takes_remove holds) (fun _ => exists_locate_of_takes) below

/-- Behind the height of a tree, a walk finds nothing. -/
theorem filesWithin_eq
    (wellFormed : tree.WellFormed)
    {count : Nat}
    (high : tree.height + 1 ≤ count) :
    filesWithin tree scope count = filesWithin tree scope (tree.height + 1) := by
  obtain ⟨more, rfl⟩ := Nat.exists_eq_add_of_le high
  rw [filesWithin, List.range_add, List.flatMap_append, ← filesWithin]
  refine List.append_right_eq_self.mpr
    (List.flatMap_eq_nil_iff.mpr fun depth member => ?_)
  obtain ⟨beyond, -, rfl⟩ := List.mem_map.mp member
  have empty : level tree scope (tree.height + 1 + beyond) = [] := by
    rw [List.eq_nil_iff_forall_not_mem]
    intro below onLevel
    obtain ⟨entered, length⟩ := (mem_level_iff wellFormed).mp onLevel
    have := entered.length_le
    omega
  rw [filesAt, empty, List.flatMap_nil]

theorem filesWithin_remove
    (holds : tree.HoldsFile place)
    (wellFormed : tree.WellFormed) :
    filesWithin (tree.remove place) scope ((tree.remove place).height + 1) =
      (filesWithin tree scope (tree.height + 1)).filter fun below =>
        tree.misses place (scope.path below) := by
  have high := le_max_left (tree.height + 1) ((tree.remove place).height + 1)
  have highLeft := le_max_right (tree.height + 1) ((tree.remove place).height + 1)
  rw [← filesWithin_eq wellFormed high, ← filesWithin_eq
    (wellFormed.remove place) highLeft, filesWithin, filesWithin, List.filter_flatMap]
  exact List.flatMap_congr fun depth _ => filesAt_remove holds wellFormed depth

end Scopes

section Files

variable {tree : FileTree} {place : Location} {exclusion : Option Exclusion}
  {base : Option Path} {root : Path} {paths left : List Path}

/-- If walks with a file and without it return, they differ in what leads to the
file. -/
theorem files_remove
    (holds : tree.HoldsFile place)
    (wellFormed : tree.WellFormed)
    (returned : (files tree exclusion base root).1 = .ok paths)
    (returnedLeft : (files (tree.remove place) exclusion base root).1 = .ok left) :
    left = paths.filter (tree.misses place) := by
  have sameLead : leadOf (tree.remove place) base root = leadOf tree base root := by
    simp only [leadOf, holds.realPath_remove]
  obtain ⟨-, -, rfl⟩ := files_eq_ok_iff.mp returned
  obtain ⟨-, -, rfl⟩ := files_eq_ok_iff.mp returnedLeft
  rw [sameLead, filesWithin_remove holds wellFormed, List.filter_map]
  rfl

end Files
end Walk
end KernelInventory
