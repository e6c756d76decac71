import KernelInventory.Proofs.Correlation.Unreadable
import KernelInventory.Proofs.Walk.Subtree

/-!
# Candidate directories inside others

The candidate directories are walked in the order of their paths, so that a directory
comes before those inside it, whatever comes in between.  All files of an inner
directory that is reached through real directories have then been found by the walk of
the outer one.  None of them is opened again, whether it has been scanned or could not
be read, and the inner directory changes nothing.
-/

namespace KernelInventory

/-! ## The order of paths -/

namespace Path

/-- Names are compared as lists of texts are. -/
theorem namesLe_iff {left right : List String} : namesLe left right = true ↔
    ¬ right < left := by
  induction left generalizing right with
  | nil => simp [namesLe]
  | cons first lefts inductionHypothesis =>
      cases right with
      | nil => simp [namesLe]
      | cons second rights =>
          rw [namesLe, List.cons_lt_cons_iff]
          by_cases same : first = second
          · simp [same, inductionHypothesis]
          · rw [if_neg same, decide_eq_true_eq, ← not_lt,
              or_iff_left fun equal => same equal.1.symm]

theorem le_iff {left right : Path} : le left right = true ↔
    left.components ≤ right.components :=
  namesLe_iff.trans not_lt

theorem le_of_le_of_le (left middle right : Path) :
    le left middle = true → le middle right = true → le left right = true := by
  simp only [le_iff]
  exact fun before behind => before.trans behind

theorem le_or_le (left right : Path) : (le left right || le right left) = true := by
  rw [Bool.or_eq_true, le_iff, le_iff]
  exact le_total left.components right.components

/-- What lies in a directory does not come before it. -/
theorem not_descend_le {below : List String} (nonempty : below ≠ [])
    (directory : Path) :
    ¬ le (directory.descend below) directory = true := by
  have components : (directory.descend below).components =
      directory.components ++ below := by
    unfold components descend isAbsolute
    dsimp only
    split <;> rfl
  have longer : directory.components < directory.components ++ below := by
    obtain ⟨name, rest, rfl⟩ := List.exists_cons_of_ne_nil nonempty
    simpa using List.append_left_lt (List.nil_lt_cons name rest)
  rw [le_iff, components, not_le]
  exact longer

/-- A further path stands behind all directories in which it lies, and the
others stay in their order. -/
theorem sort_insert
    {paths : List Path} {directory : Path} {below : List String}
    (given : directory ∈ paths)
    (nonempty : below ≠ [])
    (fresh : directory.descend below ∉ paths) :
    ∃ before behind, directory ∈ before ∧ sort paths = before ++ behind ∧
      sort (directory.descend below :: paths) = before ++ directory.descend
        below :: behind := by
  obtain ⟨before, behind, with_eq, without_eq, -⟩ :=
    List.mergeSort_cons le_of_le_of_le le_or_le (directory.descend below)
      paths.eraseDups
  have distinct : (directory.descend below :: paths).eraseDups =
      directory.descend below :: paths.eraseDups := by
    rw [List.eraseDups_cons, List.filter_eq_self.mpr]
    intro path member
    simpa using fun same : path = directory.descend below => fresh (same ▸ member)
  refine ⟨before, behind, ?_, without_eq, by rw [sort, distinct, with_eq]⟩
  have sorted := List.pairwise_mergeSort le_of_le_of_le le_or_le
    (directory.descend below :: paths.eraseDups)
  rw [with_eq, List.pairwise_append, List.pairwise_cons] at sorted
  have listed : directory ∈ before ++ behind := by
    rw [← without_eq, List.mem_mergeSort, List.mem_eraseDups]
    exact given
  exact (List.mem_append.mp listed).resolve_right fun inBehind =>
    not_descend_le nonempty directory (sorted.2.1.1 directory inBehind)

end Path

/-! ## Members whose keys have occurred -/

section Firsts

variable {α κ : Type} [DecidableEq κ] (key : α → κ)

/-- Members whose keys have all occurred are nowhere first, and take
nothing away behind them. -/
theorem firsts_of_covered
    {before covered : List α}
    (occurred : ∀ member ∈ covered, key member ∈ before.map key)
    (behind : List α) :
    firsts key (before ++ covered ++ behind) = firsts key (before ++ behind) := by
  induction behind using List.reverseRecOn with
  | nil =>
      rw [List.append_nil, List.append_nil]
      induction covered using List.reverseRecOn with
      | nil => rw [List.append_nil]
      | append_singleton covered member inductionHypothesis =>
          obtain ⟨front, last⟩ := List.forall_mem_append.mp occurred
          have shared : key member ∈ (before ++ covered).map key := by
            rw [List.map_append]
            exact List.mem_append_left _ (last member (List.mem_singleton_self member))
          rw [← List.append_assoc, firsts_snoc, if_pos shared, List.append_nil,
            inductionHypothesis front]
  | append_singleton behind member inductionHypothesis =>
      have sameKeys : key member ∈ (before ++ covered ++ behind).map key ↔
          key member ∈ (before ++ behind).map key := by
        simp only [List.map_append, List.mem_append]
        refine ⟨?_, fun either => either.imp_left Or.inl⟩
        rintro ((front | inCovered) | back)
        · exact Or.inl front
        · obtain ⟨other, here, same⟩ := List.mem_map.mp inCovered
          exact Or.inl (same ▸ occurred other here)
        · exact Or.inr back
      rw [← List.append_assoc, ← List.append_assoc, firsts_snoc, firsts_snoc,
        inductionHypothesis]
      simp only [sameKeys]

end Firsts

/-! ## Walks of inner directories -/

namespace Walk

section Inner

variable {tree : FileTree} {root : Path} {lead other : List String}
  {below further : List String}

/-- Without an exclusion, the names in front of a walk are not asked for. -/
theorem Yields.of_lead (yields : Yields tree ⟨root, none, lead⟩ below) :
    Yields tree ⟨root, none, other⟩ below :=
  ⟨yields.nonempty, yields.proper, yields.lists, yields.enters, yields.regular,
    fun _ _ _ => rfl⟩

/-- The way to a directory and a way from there on are a way together. -/
theorem Entered.yields
    (entered : Entered tree ⟨root, none, lead⟩ below)
    (yields : Yields tree ⟨root.descend below, none, other⟩ further) :
    Yields tree ⟨root, none, lead⟩ (below ++ further) := by
  induction entered generalizing further other with
  | start =>
      rw [Path.descend, List.append_nil] at yields
      exact yields.of_lead
  | @step front name _ lists proper enters inductionHypothesis =>
      rw [List.append_assoc, List.singleton_append]
      have start : Scope.path ⟨root.descend front, none, lead⟩ [] =
          root.descend front := by
        rw [Scope.path, Path.descend, List.append_nil]
      have next : (root.descend front).child name = root.descend (front ++ [name]) := by
        rw [Path.child, Path.descend, Path.descend, List.append_assoc]
      have onward : Yields tree ⟨root.descend front, none, lead⟩ (name :: further) := by
        refine (yields_cons_iff yields.nonempty).mpr ⟨?_, proper, ?_, ?_⟩
        · rw [start]
          exact lists
        · refine enters_eq_true_iff.mpr ⟨?_, rfl⟩
          rw [← List.nil_append [name], Scope.path_snoc, start, next]
          exact (enters_eq_true_iff.mp enters).1
        · rw [← next] at yields
          exact yields.of_lead
      exact inductionHypothesis onward

end Inner
end Walk

namespace Correlation

open Walk

section Run

variable {tree : FileTree} {base : Option Path} {table : Table}
  {directories : List Path} {result resultWith : Result} {directory : Path}
  {below : List String}

/-- What the walk of an inner directory yields, that of the outer one yields as well. -/
theorem walked_subset
    (wellFormed : tree.WellFormed)
    (entered : Entered tree ⟨directory, none, []⟩ below)
    (returned : (Walk.files tree none base directory).1 =
      .ok (walked tree none base directory))
    (returnedInner : (Walk.files tree none base (directory.descend below)).1 =
      .ok (walked tree none base (directory.descend below))) :
    walked tree none base (directory.descend below) ⊆ walked tree none base
      directory := by
  intro path member
  obtain ⟨-, -, whole⟩ := files_eq_ok_iff.mp returned
  obtain ⟨-, -, inner⟩ := files_eq_ok_iff.mp returnedInner
  rw [inner] at member
  obtain ⟨further, found, rfl⟩ := List.mem_map.mp member
  have yields := entered.yields ((mem_filesWithin_iff wellFormed).mp found)
  rw [whole, List.mem_map]
  refine ⟨below ++ further, (mem_filesWithin_iff wellFormed).mpr yields.of_lead, ?_⟩
  rw [Path.descend, Path.descend, Path.descend, List.append_assoc]

/-- A candidate directory that lies in another one is redundant.  If it is reached from
that one through real directories that can be listed, then what is found with it is what
is found without it, and the table is left the same. -/
theorem nested_directory_adds_nothing
    (wellFormed : tree.WellFormed)
    (given : directory ∈ directories)
    (nonempty : below ≠ [])
    (entered : Entered tree ⟨directory, none, []⟩ below)
    (returned : (run tree none base table directories).result = .ok result)
    (returnedWith : (run tree none base table
      (directories.insert (directory.descend below))).result = .ok resultWith) :
    resultWith = result ∧
      (run tree none base table (directories.insert (directory.descend below))).table =
        (run tree none base table directories).table := by
  by_cases fresh : directory.descend below ∈ directories
  · rw [List.insert_of_mem fresh] at returnedWith ⊢
    exact ⟨Except.ok.inj (returnedWith.symm.trans returned), rfl⟩
  · rw [List.insert_of_not_mem fresh] at returnedWith ⊢
    obtain ⟨found, attached⟩ := scans_of_run returned
    obtain ⟨foundWith, attachedWith⟩ := scans_of_run returnedWith
    obtain ⟨returns, -⟩ := walks_return (of_run returnedWith).1
    -- a directory is walked before those below it, so that its files have all been
    -- opened by then
    obtain ⟨before, behind, inFront, sorted, sortedWith⟩ :=
      Path.sort_insert given nonempty fresh
    have subset := walked_subset wellFormed entered
      (returns directory (List.mem_cons_of_mem _ given)) (returns _ List.mem_cons_self)
    have same : firsts tree.realPath
          (walkedCode tree none base (directory.descend below :: directories)) =
        firsts tree.realPath (walkedCode tree none base directories) := by
      rw [walkedCode, walkedCode, sorted, sortedWith, List.flatMap_append,
        List.flatMap_append, List.flatMap_cons, List.filter_append, List.filter_append,
        List.filter_append, ← List.append_assoc]
      refine firsts_of_covered tree.realPath (fun path member => ?_) _
      obtain ⟨inWalk, code⟩ := List.mem_filter.mp member
      exact List.mem_map_of_mem (List.mem_filter.mpr
        ⟨List.mem_flatMap.mpr ⟨directory, inFront, subset inWalk⟩, code⟩)
    rw [foundWith, attachedWith, found, attached, same]
    exact ⟨rfl, rfl⟩

end Run

/-! ## A directory inside another one -/

theorem entered_overlap : Entered overlapTree ⟨⟨.root, ["r"]⟩, none, []⟩ ["z"] := by
  have lists : overlapTree.lists ⟨.root, ["r"]⟩ = true := by cbv
  have real : isRealDirectory overlapTree ⟨.root, ["r", "z"]⟩ = .ok true := by cbv
  exact Entered.start.step lists (by simp [ProperName])
    (enters_eq_true_iff.mpr ⟨real, rfl⟩)

/-- The directory around the files leads to the link first, and to both files behind
it. -/
theorem run_overlap_outer :
    (run overlapTree none none overlapTable [⟨.root, ["r"]⟩]).result =
      .ok ⟨1, 1, 3, [⟨"/r/z/g.h", "[Errno 13] Permission denied: '/r/z/g.h'"⟩]⟩ := by
  have linkCode : isCode ⟨.root, ["r", "a.c"]⟩ = true := by rfl
  have sourceCode : isCode ⟨.root, ["r", "z", "f.c"]⟩ = true := by rfl
  have headerCode : isCode ⟨.root, ["r", "z", "g.h"]⟩ = true := by rfl
  rw [run, findings_overlap.2]
  simp only [eventsFrom, linkCode, sourceCode, headerCode, resolve_overlap.1,
    scanFile_overlap_link, scanFile_overlap_header, if_true, List.mem_singleton,
    List.not_mem_nil, if_false]
  rw [← message_overlap]
  rfl

/-- The files of the inner directory are found through the outer one, and the header
that cannot be read is not met twice. -/
theorem nested_directory_adds_nothing_overlap :
    overlapTree.WellFormed ∧
      Entered overlapTree ⟨⟨.root, ["r"]⟩, none, []⟩ ["z"] ∧
      (run overlapTree none none overlapTable [⟨.root, ["r"]⟩]).result =
        .ok ⟨1, 1, 3, [⟨"/r/z/g.h", "[Errno 13] Permission denied: '/r/z/g.h'"⟩]⟩ ∧
      (run overlapTree none none overlapTable
        [⟨.root, ["r", "z"]⟩, ⟨.root, ["r"]⟩]).result =
        .ok ⟨1, 1, 3, [⟨"/r/z/g.h", "[Errno 13] Permission denied: '/r/z/g.h'"⟩]⟩ ∧
      (run overlapTree none none overlapTable
        [⟨.root, ["r", "z"]⟩, ⟨.root, ["r"]⟩]).table =
        (run overlapTree none none overlapTable [⟨.root, ["r"]⟩]).table := by
  obtain ⟨-, sameTable⟩ := nested_directory_adds_nothing wellFormed_overlap
    List.mem_cons_self (List.cons_ne_nil "z" []) entered_overlap run_overlap_outer
      run_overlap
  exact ⟨wellFormed_overlap, entered_overlap, run_overlap_outer, run_overlap, sameTable⟩

end Correlation
end KernelInventory
