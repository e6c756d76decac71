import KernelInventory.Proofs.Correlation.Opening
import KernelInventory.Proofs.FileTree.Legible
import KernelInventory.Proofs.LineCount.Return

/-!
# Walks of legible trees

In a legible tree nothing ends a walk but an entry whose path is too long.  The same
ends a count of lines, which fails exactly as its walk does; and a correlation fails
exactly if one of the walks of its directories does.
-/

namespace KernelInventory

namespace Walk

variable {tree : FileTree} {exclusion : Option Exclusion} {base : Option Path}
  {root : Path} {failure : FileFailure}

/-- A walk comes upon an entry whose path is too long. -/
def Overlong (tree : FileTree) (scope : Scope) : Prop :=
  ∃ below names name,
    Entered tree scope below ∧ tree.list (scope.path below) = .ok names ∧ name ∈ names ∧
      tree.TooLong (scope.path (below ++ [name]))

/-- In a legible tree, only the length of its path keeps an entry from being
inspected. -/
theorem exists_barred_iff (legible : tree.Legible) {scope : Scope} :
    (∃ failure, Barred tree scope failure) ↔ Overlong tree scope := by
  constructor
  · rintro ⟨failure, below, names, name, entered, listed, member, refused⟩
    exact ⟨below, names, name, entered, listed, member,
      (legible.refuses_iff.mp refused).1⟩
  · rintro ⟨below, names, name, entered, listed, member, tooLong⟩
    exact ⟨_, below, names, name, entered, listed, member,
      legible.refuses_iff.mpr ⟨tooLong, rfl⟩⟩

/-- A walk fails with the first failure that it comes upon. -/
theorem files_eq_error_iff :
    (files tree exclusion base root).1 = .error failure ↔
      failure? (findings tree exclusion base root) = some failure := by
  rw [files]
  cases failure? (findings tree exclusion base root) <;> simp

section Files

variable (legible : tree.Legible)
  (noNullBase : ∀ directory ∈ base, directory.hasNull = false)
  (noNull : root.hasNull = false)

include legible noNullBase noNull

/-- In a legible tree, the start of a walk can be compared with the base. -/
theorem compares_of_legible : Compares tree base root := by
  rintro directory rfl
  obtain ⟨start, resolved⟩ := legible.exists_realPath noNull
  obtain ⟨outer, resolvedBase⟩ := legible.exists_realPath (noNullBase directory rfl)
  rw [leadingNames, resolved, resolvedBase]
  exact ⟨_, rfl⟩

/-- A walk of a legible tree fails exactly if it comes upon a path that is too long. -/
theorem exists_files_eq_error_iff :
    (∃ failure, (files tree exclusion base root).1 = .error failure) ↔
      Overlong tree ⟨root, exclusion, leadOf tree base root⟩ := by
  have compares := compares_of_legible legible noNullBase noNull
  constructor
  · rintro ⟨failure, failed⟩
    exact (exists_barred_iff legible).mp
      ⟨failure, barred_of_files_eq_error legible.wellFormed compares noNull failed⟩
  · intro overlong
    obtain ⟨failure, barred⟩ := (exists_barred_iff legible).mpr overlong
    cases walked : (files tree exclusion base root).1 with
    | error other => exact ⟨other, rfl⟩
    | ok paths =>
        obtain ⟨-, -, free⟩ := (returns_iff legible.wellFormed).mp ⟨paths, walked⟩
        exact absurd barred (free failure)

theorem eq_of_files_eq_error
    (failed : (files tree exclusion base root).1 = .error failure) :
    ∃ place, failure = .refused .nameTooLong place := by
  have compares := compares_of_legible legible noNullBase noNull
  obtain ⟨below, names, name, -, -, -, refused⟩ :=
    barred_of_files_eq_error legible.wellFormed compares noNull failed
  exact ⟨_, (legible.refuses_iff.mp refused).2⟩

end Files
end Walk

namespace Correlation

open Walk

variable {tree : FileTree} {exclusion : Option Exclusion} {base : Option Path}
  {table : Table} {directories : List Path} {failure : FileFailure}

/-- Opening a file that a walk comes upon does not end the correlation. -/
theorem fault?_scanFile
    {known : String → Bool} {path : Path}
    (regular : tree.isFile path = .ok true) :
    (scanFile tree known path).fault? = none := by
  obtain ⟨noNull, -⟩ := FileTree.leadsTo_eq_true_iff.mp regular
  rw [scanFile]
  cases read : tree.readText path with
  | ok text => rfl
  | error failure =>
      obtain ⟨error, rfl⟩ := FileTree.refused_of_readText noNull read
      rfl

/-- In a legible tree, what ends a correlation is what ends one of its walks. -/
theorem filterMap_fault?_eventsFrom
    (legible : tree.Legible)
    {known : String → Bool} {seen : List Path} {found : List Finding}
    (regular : ∀ path, .file path ∈ found → tree.isFile path = .ok true) :
    (eventsFrom tree known seen found).filterMap Event.fault? =
      found.filterMap Finding.fault? := by
  have unfolds := unfolds tree known seen found
  generalize eventsFrom tree known seen found = events at unfolds ⊢
  induction unfolds with
  | nil => rfl
  | noFile _ _ inductionHypothesis =>
      rw [List.filterMap_cons, List.filterMap_cons,
        inductionHypothesis fun other later =>
        regular other (List.mem_cons_of_mem _ later)]
      rfl
  | unresolved _ failed _ _ =>
      obtain ⟨noNull, -⟩ :=
        FileTree.leadsTo_eq_true_iff.mp (regular _ List.mem_cons_self)
      obtain ⟨canonical, resolved⟩ := legible.exists_realPath noNull
      cases failed.symm.trans resolved
  | noCode _ _ inductionHypothesis | again _ _ _ _ inductionHypothesis =>
      exact inductionHypothesis fun other later =>
        regular other (List.mem_cons_of_mem _ later)
  | fresh _ _ _ _ inductionHypothesis =>
      rw [List.filterMap_cons_none (fault?_scanFile (regular _ List.mem_cons_self))]
      exact inductionHypothesis fun other later =>
        regular other (List.mem_cons_of_mem _ later)

/-- In a legible tree, a correlation fails with the failure of the first of
its walks that fails. -/
theorem run_eq_error_iff (legible : tree.Legible) :
    (run tree exclusion base table directories).result = .error failure ↔
      (Path.sort directories).findSome? (fun directory =>
        failure? (Walk.findings tree exclusion base directory)) = some failure := by
  have regular : ∀ path, .file path ∈ findings tree exclusion base directories →
      tree.isFile path = .ok true := by
    intro path member
    obtain ⟨directory, -, found⟩ := List.mem_flatMap.mp member
    exact isFile_of_mem_findings found rfl
  have same : (eventsFrom tree table.contains []
      (findings tree exclusion base directories)).findSome? Event.fault? =
        (Path.sort directories).findSome? fun directory =>
          failure? (Walk.findings tree exclusion base directory) := by
    rw [← List.head?_filterMap, filterMap_fault?_eventsFrom legible regular, findings,
      List.filterMap_flatMap, List.head?_flatMap]
    simp only [List.head?_filterMap, failure?]
  rw [run]
  dsimp only
  rw [same]
  cases (Path.sort directories).findSome? _ <;> simp

/-- In a legible tree, what a correlation fails with is what one of its walks fails
with. -/
theorem exists_files_eq_error
    (legible : tree.Legible)
    (failed : (run tree exclusion base table directories).result = .error failure) :
    ∃ directory ∈ directories,
      (files tree exclusion base directory).1 = .error failure := by
  obtain ⟨directory, listed, first⟩ :=
    List.exists_of_findSome?_eq_some ((run_eq_error_iff legible).mp failed)
  exact ⟨directory, mem_sort_iff.mp listed, files_eq_error_iff.mpr first⟩

/-- In a legible tree, a correlation fails if one of its walks does. -/
theorem exists_run_eq_error
    (legible : tree.Legible)
    {directory : Path}
    (listed : directory ∈ directories)
    (failed : (files tree exclusion base directory).1 = .error failure) :
    ∃ first, (run tree exclusion base table directories).result = .error first := by
  simp only [run_eq_error_iff legible]
  rw [← Option.isSome_iff_exists, List.findSome?_isSome_iff]
  exact ⟨directory, mem_sort_iff.mpr listed, by rw [files_eq_error_iff.mp failed]; rfl⟩

end Correlation
end KernelInventory
