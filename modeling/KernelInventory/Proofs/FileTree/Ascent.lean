import KernelInventory.Proofs.FileTree.Straight
import KernelInventory.Proofs.Text.Search

/-!
# Paths that ascend

At the root, the name `..` leads nowhere else, however often it is written.  But the
canonical form of a relative path grows by every such name, and once its text is longer
than the file system takes, the names behind stay as they are written, links and all.
-/

namespace KernelInventory

namespace Path

/-- The relative path of names behind a number of names `..`. -/
def ascending (count : Nat) (names : List String) : Path :=
  ⟨.working, List.replicate count ".." ++ names⟩

theorem ascending_child (count : Nat) (names : List String) (name : String) :
    (ascending count names).child name = ascending count (names ++ [name]) := by
  rw [ascending, child, List.append_assoc]
  rfl

theorem ascending_child_up (count : Nat) :
    (ascending count []).child ".." = ascending (count + 1) [] := by
  rw [child, ascending, ascending, List.append_nil, List.append_nil,
    List.replicate_succ']

theorem ascending_ascends (count : Nat) :
    (ascending count []).names = [] ∨ (ascending count []).names.getLast? =
      some ".." := by
  cases count with
  | zero => exact Or.inl rfl
  | succ count => simp [ascending, List.getLast?_replicate]

theorem up_ascending (count : Nat) :
    (ascending count []).up = ascending (count + 1) [] := by
  rw [up, if_pos ⟨rfl, ascending_ascends count⟩, ascending_child_up]

theorem utf8ByteSize_intercalate_ascending
    (count : Nat) {names : List String}
    (nonempty : names ≠ []) :
    ("/".intercalate (List.replicate count ".." ++ names)).utf8ByteSize =
      3 * count + ("/".intercalate names).utf8ByteSize := by
  induction count with
  | zero => simp
  | succ count inductionHypothesis =>
      have more : List.replicate count ".." ++ names ≠ [] := by simp [nonempty]
      rw [List.replicate_succ, List.cons_append, String.intercalate_cons_of_ne_nil more,
        String.utf8ByteSize_append, String.utf8ByteSize_append, inductionHypothesis]
      have dots : "..".utf8ByteSize = 2 := by decide
      have mark : "/".utf8ByteSize = 1 := by decide
      omega

/-- Every name `..` takes three bytes of a path. -/
theorem utf8ByteSize_ascending
    (count : Nat) {names : List String}
    (nonempty : names ≠ []) :
    (ascending count names).toString.utf8ByteSize =
      3 * count + ("/".intercalate names).utf8ByteSize := by
  have notHere : ascending count names ≠ here := by simp [ascending, here, nonempty]
  rw [toString, if_neg notHere, ← utf8ByteSize_intercalate_ascending count nonempty]
  exact congrArg String.utf8ByteSize (String.empty_append)

end Path

namespace FileTree

variable {tree : FileTree}

/-- From the root, names `..` lead nowhere else. -/
theorem locateFrom_ascending
    (followLast : Bool) (links count : Nat) (names : List String) :
    tree.locateFrom followLast links [] (List.replicate count ".." ++ names) =
      tree.locateFrom followLast links [] names := by
  induction count with
  | zero => rfl
  | succ count inductionHypothesis =>
      rw [List.replicate_succ, List.cons_append, locateFrom_up ⟨true, rfl⟩]
      exact inductionHypothesis

/-- A relative path ascends with every name `..`. -/
theorem expand_ascending
    (strict : Bool) (pending : List Sighting) (before count : Nat)
    (names : List String) :
    tree.expand strict pending (.ascending before [])
      (List.replicate count ".." ++ names) =
      tree.expand strict pending (.ascending (before + count) []) names := by
  induction count generalizing before with
  | zero => rfl
  | succ count inductionHypothesis =>
      rw [List.replicate_succ, List.cons_append, expand_of_reaches Replaces.up.eq,
        Path.up_ascending, inductionHypothesis, Nat.add_right_comm, Nat.add_assoc]

/-- From the root, names `..` lead to the root, and there are no links among them. -/
theorem straight_ascending (atRoot : tree.workingDirectory = []) (count : Nat) :
    Straight tree (.ascending count []) [] := by
  induction count with
  | zero =>
      have begins : Straight tree Path.here tree.workingDirectory := .here
      rwa [atRoot] at begins
  | succ count inductionHypothesis =>
      rw [← Path.ascending_child_up]
      exact inductionHypothesis.up ⟨true, rfl⟩ rfl (Path.ascending_ascends count)

/-- Seen from the root, names behind names `..` stand right below the root. -/
theorem flatten_ascending
    (atRoot : tree.workingDirectory = [])
    (count : Nat) {names : List String}
    (noDots : ".." ∉ names) :
    tree.flatten (.ascending count names) = Location.path names := by
  induction names using List.reverseRecOn with
  | nil =>
      refine (straight_ascending atRoot count).flatten_eq_path
        (fun _ => flatten_here ?_) ⟨_, rfl⟩
      simp [atRoot]
  | append_singleton names name inductionHypothesis =>
      rw [List.mem_append, List.mem_singleton, not_or] at noDots
      rw [← Path.ascending_child, flatten_child (Ne.symm noDots.2),
        inductionHypothesis noDots.1]
      rfl

/-- Where the text of a path gets too long, the next name is kept as it is written. -/
theorem expand_long
    {pending : List Sighting} {current : Path} {name : String} {rest : List String}
    (proper : ProperName name)
    (noNull : name.toList.contains '\x00' = false)
    (long : pathLimit ≤ (current.child name).toString.utf8ByteSize) :
    tree.expand false pending current (name :: rest) =
      tree.expand false pending (current.child name) rest :=
  expand_of_reaches (Replaces.skip rfl proper noNull (if_pos long)).eq

end FileTree
end KernelInventory
