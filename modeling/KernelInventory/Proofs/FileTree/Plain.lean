import KernelInventory.Proofs.FileTree.Replacement
import KernelInventory.Proofs.Text.Search

/-!
# Paths that hold NUL

No file system takes a path that holds the character NUL.  Looking for the canonical
form of a path fails for this reason only if a name of the path holds it, since the
targets of links do not.
-/

namespace KernelInventory

namespace Path

theorem hasNull_iff {path : Path} :
    path.hasNull = true ↔ ∃ name ∈ path.names, '\x00' ∈ name.toList := by
  simp [hasNull]

theorem hasNull_child (path : Path) (name : String) :
    (path.child name).hasNull = (path.hasNull || name.toList.contains '\x00') := by
  simp [hasNull, child]

/-- A path that is read from a text holds NUL only if the text does. -/
theorem mem_of_hasNull_ofString {text : String}
    (holdsNull : (ofString text).hasNull = true) :
    '\x00' ∈ text.toList := by
  obtain ⟨name, member, inName⟩ := hasNull_iff.mp holdsNull
  exact Text.mem_of_mem_splitString (List.mem_of_mem_filter member) inName

/-- What two paths make together holds NUL only if one of them does. -/
theorem hasNull_or_of_hasNull_div {path below : Path}
    (holdsNull : (path / below).hasNull = true) :
    path.hasNull = true ∨ below.hasNull = true := by
  by_cases absolute : below.isAbsolute = true
  · have replaced : path / below = below := if_pos absolute
    exact .inr (replaced ▸ holdsNull)
  · have joined : path / below = ⟨path.anchor, path.names ++ below.names⟩ :=
      if_neg absolute
    rw [joined, hasNull, List.any_append, Bool.or_eq_true] at holdsNull
    exact holdsNull

end Path

namespace FileTree

/-- No link of the tree has a target that holds NUL, as no file system takes such a
target. -/
def PlainLinks (tree : FileTree) : Prop :=
  ∀ location target, tree.node? location = some (.link target) → '\x00' ∉ target.toList

variable {tree : FileTree}

theorem loopFailure_ne_nullByte (link : Path) : tree.loopFailure link ≠ .nullByte := by
  unfold loopFailure
  split <;> rintro ⟨⟩

/-- Replacing links fails with NUL only at a name that holds it. -/
theorem expand_ne_nullByte
    (plain : tree.PlainLinks) (strict : Bool) (pending : List Sighting) (current : Path)
    {names : List String}
    (plainNames : ∀ name ∈ names, '\x00' ∉ name.toList) :
    tree.expand strict pending current names ≠ .error .nullByte := by
  induction pending, current, names using expand_induction tree strict with
  | nil pending current =>
      rw [expand]
      rintro ⟨⟩
  | fails pending current name rest failure step =>
      rw [expand_of_fails step]
      rintro ⟨⟩
      cases replacementStep_eq_iff.mp step with
      | null null => exact plainNames name List.mem_cons_self (by simpa using null)
  | reaches pending current name rest path step onward =>
      rw [expand_of_reaches step]
      exact onward (List.forall_mem_of_forall_mem_cons plainNames)
  | again pending current name rest location target step again =>
      rw [expand_of_again step again]
      split
      · exact fun same => loopFailure_ne_nullByte _ (Except.error.inj same)
      · rintro ⟨⟩
  | link pending current name rest location target step idle inside onward =>
      have plainTarget := inside fun piece part member =>
        plain location target (node?_of_replacementStep step)
          (Text.mem_of_mem_splitString part member)
      rw [expand_of_idle step idle]
      split
      · exact onward _ (List.forall_mem_of_forall_mem_cons plainNames)
      · rintro ⟨⟩
      next failure failed =>
        rintro ⟨⟩
        exact plainTarget failed

/-- A path has no canonical form because of NUL only if it holds NUL. -/
theorem hasNull_of_realLocation
    (plain : tree.PlainLinks) {path : Path}
    (failed : tree.realLocation path = .error .nullByte) :
    path.hasNull = true := by
  by_contra plainPath
  have plainNames : ∀ name ∈ path.names, '\x00' ∉ name.toList := by
    intro name member holds
    exact plainPath (Path.hasNull_iff.mpr ⟨name, member, holds⟩)
  unfold realLocation at failed
  split at failed
  · cases failed
  next failure expansion =>
    unfold expandPath at expansion
    cases failure with
    | nullByte => exact expand_ne_nullByte plain true [] _ plainNames expansion
    | linkLoop place => cases failed
    | refused error place => cases error <;> cases failed

end FileTree
end KernelInventory
