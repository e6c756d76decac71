import KernelInventory.Proofs.FileTree.Descent
import KernelInventory.Proofs.FileTree.Outline

/-!
# Concealing what directories hold

A directory that may not be listed is looked through as before.  So concealing the names
in some directories leaves a tree well formed and keeps its outline, and every listing
either stays what it was or is refused.
-/

namespace KernelInventory

/-- What is left of a node that may not be listed. -/
def Node.conceal : Node → Node
  | .directory _ searchable => .directory false searchable
  | node => node

namespace FileTree

/-- Take the right to list the directories at some locations away. -/
def conceal (tree : FileTree) (hidden : Location → Bool) : FileTree :=
  { tree with
    entries := tree.entries.map fun entry =>
      (entry.1, if hidden entry.1 then entry.2.conceal else entry.2) }

section Concealment

variable (tree : FileTree) (hidden : Location → Bool)

@[simp] theorem locations_conceal :
    (tree.conceal hidden).locations = tree.locations := by
  rw [locations, conceal, List.map_map]
  rfl

@[simp] theorem namesAt_conceal (location : Location) :
    (tree.conceal hidden).namesAt location = tree.namesAt location := by
  rw [namesAt, conceal, List.filterMap_map]
  rfl

theorem node?_conceal {location : Location} (nonempty : location ≠ []) :
    (tree.conceal hidden).node? location =
      (tree.node? location).map fun node => if hidden location then node.conceal
      else node := by
  rw [node?, node?, if_neg nonempty, if_neg nonempty]
  exact lookup_map tree.entries
    (fun place node => if hidden place then node.conceal else node) location

theorem WellFormed.conceal {tree : FileTree} (wellFormed : tree.WellFormed) :
    (tree.conceal hidden).WellFormed where
  nodup := by
    rw [locations_conceal]
    exact wellFormed.nodup
  proper := by
    rw [locations_conceal]
    exact wellFormed.proper

theorem sameOutline_conceal : SameOutline (tree.conceal hidden) tree where
  workingDirectory := rfl
  nodes := by
    intro location
    by_cases root : location = []
    · subst root
      rfl
    · rw [node?_conceal tree hidden root, Option.map_map]
      apply congrArg (Option.map · _)
      funext node
      dsimp only [Function.comp]
      split
      · cases node <;> rfl
      · rfl

theorem listAt_conceal (location : Location) :
    (tree.conceal hidden).listAt location = tree.listAt location ∨
      ∃ error, (tree.conceal hidden).listAt location = .error error := by
  by_cases root : location = []
  · subst root
    left
    rw [listAt, listAt, namesAt_conceal]
    rfl
  · rw [listAt, listAt, node?_conceal tree hidden root, namesAt_conceal]
    cases hidden location with
    | false => left; simp
    | true =>
        cases tree.node? location with
        | none => left; rfl
        | some node =>
            cases node with
            | file _ _ | link _ => left; rfl
            | directory _ _ => exact Or.inr ⟨_, rfl⟩

/-- Every listing stays what it was, or is refused. -/
theorem list_conceal (path : Path) :
    (tree.conceal hidden).list path = tree.list path ∨
      ∃ error place, (tree.conceal hidden).list path =
        .error (.refused error place) := by
  have sameLocate := (sameOutline_conceal tree hidden).locate_eq true path
  cases noNull : path.hasNull with
  | true =>
      left
      rw [list, list, atPath_of_null noNull, atPath_of_null noNull]
  | false =>
      cases located : tree.locate true path with
      | error error =>
          left
          rw [list, list, atPath_of_locate_error noNull located,
            atPath_of_locate_error noNull (sameLocate.trans located)]
      | ok location =>
          rw [list_of_locate noNull located,
            list_of_locate noNull (sameLocate.trans located)]
          rcases listAt_conceal tree hidden location with same | ⟨error, refused⟩
          · left
            rw [same]
          · right
            rw [refused]
            exact ⟨error, path.toString, rfl⟩

end Concealment
end FileTree
end KernelInventory
