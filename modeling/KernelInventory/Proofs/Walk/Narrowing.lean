import KernelInventory.Proofs.Exclusion.Insertion
import KernelInventory.Proofs.Walk.Completeness

/-!
# Walks that skip more

A walk that skips more enters fewer directories and takes fewer files, at every depth.
What is left stands in the order in which it stood, so that the files of the one walk
are a sublist of those of the other.
-/

namespace KernelInventory
namespace Walk

open Exclusion (SkipsWithin)

section Scopes

variable {tree : FileTree} {less more : Option Exclusion} {root : Path}
  {lead : List String}

/-- What is not skipped by the one that skips more is not skipped by the other. -/
theorem Scope.skips_eq_false_of_skipsWithin
    (within : SkipsWithin less more)
    {below : List String} {directory : Bool}
    (kept : Scope.skips ⟨root, more, lead⟩ below directory = false) :
    Scope.skips ⟨root, less, lead⟩ below directory = false := by
  have anySkips : ∀ exclusion : Option Exclusion,
      Scope.skips ⟨root, exclusion, lead⟩ below directory =
        exclusion.any
          (·.skips (Path.toString ⟨.working, lead ++ below⟩) directory) := by
    rintro (_ | exclusion) <;> rfl
  rw [anySkips, Bool.eq_false_iff] at kept ⊢
  exact fun skipped => kept (within _ _ skipped)

theorem enters_of_skipsWithin
    (within : SkipsWithin less more)
    {below : List String}
    (entered : enters tree ⟨root, more, lead⟩ below = true) :
    enters tree ⟨root, less, lead⟩ below = true := by
  obtain ⟨directory, kept⟩ := enters_eq_true_iff.mp entered
  exact enters_eq_true_iff.mpr
    ⟨directory, Scope.skips_eq_false_of_skipsWithin within kept⟩

theorem takes_of_skipsWithin
    (within : SkipsWithin less more)
    {below : List String}
    (taken : takes tree ⟨root, more, lead⟩ below = true) :
    takes tree ⟨root, less, lead⟩ below = true := by
  obtain ⟨regular, kept⟩ := takes_eq_true_iff.mp taken
  exact takes_eq_true_iff.mpr ⟨regular, Scope.skips_eq_false_of_skipsWithin within kept⟩

/-- Of the entries of fewer directories, a stricter choice makes a sublist. -/
theorem flatMap_children_sublist
    {fewer many : List (List String)} {strict lax : List String → Bool}
    (sublist : fewer.Sublist many)
    (stricter : ∀ below, strict below = true → lax below = true) :
    (fewer.flatMap fun below =>
      (children tree ⟨root, more, lead⟩ below).filter strict).Sublist
        (many.flatMap fun below =>
          (children tree ⟨root, less, lead⟩ below).filter lax) :=
  (List.Sublist.flatMap_right fewer fun _ _ =>
    List.monotone_filter_right _ stricter).trans (sublist.flatMap _)

/-- The directories of a depth are fewer, where more is skipped. -/
theorem level_sublist (within : SkipsWithin less more) (depth : Nat) :
    (level tree ⟨root, more, lead⟩ depth).Sublist
      (level tree ⟨root, less, lead⟩ depth) := by
  induction depth with
  | zero => exact List.Sublist.refl _
  | succ depth inductionHypothesis =>
      rw [level_succ, level_succ]
      exact flatMap_children_sublist inductionHypothesis fun _ =>
        enters_of_skipsWithin within

theorem filesWithin_sublist (within : SkipsWithin less more) (count : Nat) :
    (filesWithin tree ⟨root, more, lead⟩ count).Sublist
      (filesWithin tree ⟨root, less, lead⟩ count) :=
  List.Sublist.flatMap_right _ fun depth _ =>
    flatMap_children_sublist (level_sublist within depth) fun _ =>
      takes_of_skipsWithin within

end Scopes

section Files

variable {tree : FileTree} {base : Option Path} {root : Path} {paths : List Path}

/-- Two walks that return differ as their exclusions do: the one that skips more yields
fewer files, in the same order. -/
theorem files_sublist
    {less more : Option Exclusion} {fewer : List Path}
    (within : SkipsWithin less more)
    (returned : (files tree less base root).1 = .ok paths)
    (returnedMore : (files tree more base root).1 = .ok fewer) :
    fewer.Sublist paths := by
  obtain ⟨-, -, rfl⟩ := files_eq_ok_iff.mp returned
  obtain ⟨-, -, rfl⟩ := files_eq_ok_iff.mp returnedMore
  exact (filesWithin_sublist within _).map root.descend

end Files
end Walk
end KernelInventory
