import KernelInventory.Proofs.FileTree.Descent

/-!
# Paths that are refused

Whether a path leads to a directory or to a file can be told unless the file system
refuses the path for another reason than that nothing is there.  What can be told to be
a directory can be told to be a link or none.
-/

namespace KernelInventory
namespace FileTree

variable {tree : FileTree}

/-- Where all links are followed to, the last one need not be. -/
theorem exists_locateFrom_false
    {links : Nat} {current reached : Location} {names : List String}
    (found : tree.locateFrom true links current names = .ok reached) :
    ∃ place, tree.locateFrom false links current names = .ok place := by
  induction links, current, names using lookup_induction tree with
  | nil links current => exact ⟨current, by rw [locateFrom]⟩
  | fails links current name rest error step =>
      cases (locateFrom_of_fails step).symm.trans found
  | reaches links current name rest place step onward =>
      rw [locateFrom_of_reaches step] at found ⊢
      exact onward found
  | link links current name rest target step onward =>
      obtain ⟨left, rfl, inTarget⟩ := exists_left_of_link step found
      by_cases last : rest = []
      · subst last
        exact ⟨current ++ [name], by rw [locateFrom_cons, step]; rfl⟩
      · rw [locateFrom_of_link step (by simp [last])]
        exact onward left rfl inTarget

/-- A path leads to something that cannot be inspected: the file system refuses the
path, and not because nothing is there. -/
def Refuses (tree : FileTree) (path : Path) (failure : FileFailure) : Prop :=
  path.hasNull = false ∧
    ∃ error, tree.locate true path = .error error ∧ error.meansAbsent = false ∧
      failure = .refused error path.toString

theorem leadsTo_eq_error_iff {kind : Node → Bool} {path : Path}
    {failure : FileFailure} :
    tree.leadsTo true kind path = .error failure ↔ Refuses tree path failure := by
  unfold leadsTo Refuses
  cases path.hasNull with
  | true => simp
  | false =>
      cases tree.locate true path with
      | error error =>
          cases absent : error.meansAbsent with
          | true => simp [absent]
          | false => simpa [absent] using eq_comm
      | ok location => simp

theorem noNull_of_isDirectory
    {path : Path}
    (directory : tree.isDirectory path = .ok true) :
    path.hasNull = false :=
  (leadsTo_eq_true_iff.mp directory).1

/-- What leads to a directory can be tested for being a link. -/
theorem exists_isLink
    {path : Path}
    (directory : tree.isDirectory path = .ok true) :
    ∃ link, tree.isLink path = .ok link := by
  obtain ⟨noNull, location, located, -⟩ := leadsTo_eq_true_iff.mp directory
  unfold locate at located
  split at located
  · cases located
  next short =>
    obtain ⟨place, itself⟩ := exists_locateFrom_false located
    have located : tree.locate false path = .ok place := by
      rw [locate, if_neg short, itself]
    exact ⟨_, leadsTo_of_locate noNull located _⟩

/-- A listing fails because the directory is refused, unless the path is none. -/
theorem refused_of_list
    {path : Path} {failure : FileFailure}
    (noNull : path.hasNull = false)
    (failed : tree.list path = .error failure) :
    ∃ error, failure = .refused error path.toString :=
  refused_of_atPath noNull failed

end FileTree
end KernelInventory
