import KernelInventory.Proofs.FileTree.Refusal
import KernelInventory.Proofs.LineCount.Subtree

/-!
# When a count returns

A directory that cannot be listed is left out of a walk, but an entry that cannot be
inspected ends it.  So a walk returns exactly if nothing bars the way to what the
entries of the listed directories lead to; and a count, which leaves out the files that
cannot be read, returns exactly if its walk does.
-/

namespace KernelInventory

namespace Walk

open FileTree (Refuses)

section Faults

variable {tree : FileTree} {scope : Scope}

theorem isRealDirectory_eq_error_iff {path : Path} {failure : FileFailure} :
    isRealDirectory tree path = .error failure ↔ Refuses tree path failure := by
  rw [← FileTree.leadsTo_eq_error_iff, ← FileTree.isDirectory, isRealDirectory]
  rcases directory : tree.isDirectory path with other | ⟨_ | _⟩
  · simp [bind, Except.bind]
  · simp [bind, Except.bind, pure, Except.pure]
  · obtain ⟨link, tested⟩ := FileTree.exists_isLink directory
    simp [tested, bind, Except.bind, pure, Except.pure]

/-- What ends a walk at an entry is that the entry cannot be inspected. -/
theorem fault_mem_inspect_iff {below : List String} {failure : FileFailure} :
    failure ∈ (inspect tree scope below).filterMap Finding.fault? ↔
      Refuses tree (scope.path below) failure := by
  rw [inspect]
  cases directory : isRealDirectory tree (scope.path below) with
  | error other =>
      rw [← isRealDirectory_eq_error_iff, directory]
      simp [Finding.fault?, eq_comm]
  | ok real =>
      have inspected : ¬ Refuses tree (scope.path below) failure := by
        rw [← isRealDirectory_eq_error_iff, directory]
        intro same
        cases same
      refine iff_of_false ?_ inspected
      rw [← FileTree.leadsTo_eq_error_iff, ← FileTree.isFile] at inspected
      cases real with
      | true => cases skipped : scope.skips below true <;>
          simp [skipped, Finding.fault?]
      | false =>
          cases skipped : scope.skips below false with
          | true => simp [skipped]
          | false =>
              rcases regular : tree.isFile (scope.path below) with other | ⟨_ | _⟩
              · rw [regular] at inspected
                simpa [skipped, Finding.fault?, eq_comm] using inspected
              · simp [skipped]
              · simp [skipped, Finding.fault?]

/-- What ends a walk in a directory is that one of its entries cannot be inspected. -/
theorem fault_mem_scan_iff
    {below : List String} {failure : FileFailure}
    (noNull : (scope.path below).hasNull = false) :
    failure ∈ (scan tree scope below).filterMap Finding.fault? ↔
      ∃ entry ∈ children tree scope below, Refuses tree (scope.path entry) failure := by
  rw [scan, children]
  cases listed : tree.list (scope.path below) with
  | error other =>
      obtain ⟨error, rfl⟩ := FileTree.refused_of_list noNull listed
      simp [Finding.fault?]
  | ok names =>
      simp only [List.filterMap_flatMap, List.mem_flatMap, fault_mem_inspect_iff,
        List.mem_map, exists_exists_and_eq_and]

/-- The path of an entered directory can be looked up, if that of the start can. -/
theorem Entered.noNull
    {below : List String}
    (entered : Entered tree scope below)
    (noNull : scope.root.hasNull = false) :
    (scope.path below).hasNull = false := by
  cases entered with
  | start => simpa [Scope.path, Path.descend] using noNull
  | step _ _ _ enters =>
      obtain ⟨directory, -⟩ :=
        isRealDirectory_eq_true_iff.mp (enters_eq_true_iff.mp enters).1
      exact (FileTree.leadsTo_eq_true_iff.mp directory).1

/-- What ends a walk is that an entry of a directory that it enters cannot be
inspected. -/
theorem fault_mem_levels_iff
    (wellFormed : tree.WellFormed)
    (noNull : scope.root.hasNull = false)
    {failure : FileFailure} :
    failure ∈ (levels tree scope (tree.height + 1) [[]]).filterMap Finding.fault? ↔
      ∃ below, Entered tree scope below ∧
        ∃ entry ∈ children tree scope below,
          Refuses tree (scope.path entry) failure := by
  simp only [levels_eq, List.filterMap_flatMap, List.mem_flatMap, List.mem_range]
  constructor
  · rintro ⟨depth, -, below, onLevel, found⟩
    obtain ⟨entered, -⟩ := (mem_level_iff wellFormed).mp onLevel
    exact ⟨below, entered, (fault_mem_scan_iff (entered.noNull noNull)).mp found⟩
  · rintro ⟨below, entered, refused⟩
    exact ⟨below.length, Nat.lt_succ_of_le entered.length_le, below,
      (mem_level_iff wellFormed).mpr ⟨entered, rfl⟩,
      (fault_mem_scan_iff (entered.noNull noNull)).mpr refused⟩

/-- A walk whose start holds NUL does not come to its end. -/
theorem noNull_of_faultless
    {count : Nat}
    (faultless : (levels tree scope (count + 1) [[]]).filterMap Finding.fault? = []) :
    scope.root.hasNull = false := by
  rw [← Bool.not_eq_true]
  intro null
  have path : scope.path [] = scope.root := by
    rw [Scope.path, Path.descend, List.append_nil]
  have listed : tree.list (scope.path []) = .error .nullByte := by
    rw [path, FileTree.list, FileTree.atPath, if_pos null]
  have scanned : scan tree scope [] = [.fault .nullByte] := by rw [scan, listed]
  rw [levels_succ, List.flatMap_singleton, scanned] at faultless
  cases faultless

end Faults

section Return

variable {tree : FileTree} {exclusion : Option Exclusion} {base : Option Path}
  {root : Path}

/-- An entry of a directory that a walk enters cannot be inspected. -/
def Barred (tree : FileTree) (scope : Scope) (failure : FileFailure) : Prop :=
  ∃ below names name,
    Entered tree scope below ∧ tree.list (scope.path below) = .ok names ∧ name ∈ names ∧
      Refuses tree (scope.path (below ++ [name])) failure

theorem barred_iff {scope : Scope} {failure : FileFailure} :
    Barred tree scope failure ↔
      ∃ below, Entered tree scope below ∧
        ∃ entry ∈ children tree scope below,
          Refuses tree (scope.path entry) failure := by
  constructor
  · rintro ⟨below, names, name, entered, listed, member, refused⟩
    exact ⟨below, entered, _, mem_children_iff.mpr ⟨names, name, listed, member, rfl⟩,
      refused⟩
  · rintro ⟨below, entered, entry, isChild, refused⟩
    obtain ⟨names, name, listed, member, rfl⟩ := mem_children_iff.mp isChild
    exact ⟨below, names, name, entered, listed, member, refused⟩

/-- A walk returns exactly if its start can be compared with the base and holds no NUL,
and all entries of the directories that it enters can be inspected. -/
theorem returns_iff (wellFormed : tree.WellFormed) :
    (∃ paths, (files tree exclusion base root).1 = .ok paths) ↔
      Compares tree base root ∧ root.hasNull = false ∧
        ∀ failure, ¬ Barred tree ⟨root, exclusion, leadOf tree base root⟩ failure := by
  simp only [files_eq_ok_iff, exists_and_left, exists_eq, and_true]
  refine and_congr_right fun _ => ⟨fun faultless => ?_, fun ⟨noNull, free⟩ => ?_⟩
  · have noNull := noNull_of_faultless faultless
    refine ⟨noNull, fun failure barred => ?_⟩
    have found := (fault_mem_levels_iff wellFormed noNull).mpr (barred_iff.mp barred)
    rw [faultless] at found
    cases found
  · rw [List.eq_nil_iff_forall_not_mem]
    exact fun failure found =>
      free failure (barred_iff.mpr ((fault_mem_levels_iff wellFormed noNull).mp found))

/-- What ends a walk is what bars the way to an entry, if its start is not to blame. -/
theorem barred_of_files_eq_error
    {failure : FileFailure}
    (wellFormed : tree.WellFormed)
    (compares : Compares tree base root)
    (noNull : root.hasNull = false)
    (ended : (files tree exclusion base root).1 = .error failure) :
    Barred tree ⟨root, exclusion, leadOf tree base root⟩ failure := by
  rcases findings_cases tree exclusion base root with
    ⟨incomparable, -⟩ | ⟨-, warnings, noFaults, -, found⟩
  · exact absurd compares incomparable
  rw [files] at ended
  dsimp only at ended
  split at ended
  next first failed =>
    obtain rfl := Except.error.inj ended
    obtain ⟨finding, member, isFault⟩ := List.exists_of_findSome?_eq_some failed
    have fault := List.mem_filterMap.mpr ⟨finding, member, isFault⟩
    rw [found, List.filterMap_append, noFaults, List.nil_append] at fault
    exact barred_iff.mpr ((fault_mem_levels_iff wellFormed noNull).mp fault)
  · cases ended

end Return
end Walk

namespace LineStatistics

open Walk

/-! ## Counts -/

/-- A count does not return if its walk does not. -/
theorem files_of_ofDirectory
    {tree : FileTree} {exclusion : Option Exclusion} {base : Option Path} {root : Path}
    {statistics : LineStatistics}
    (returned : (ofDirectory tree exclusion base root).1 = .ok statistics) :
    ∃ paths, (files tree exclusion base root).1 = .ok paths := by
  cases walked : (files tree exclusion base root).1 with
  | ok paths => exact ⟨paths, rfl⟩
  | error failure => cases returned.symm.trans (ofDirectory_eq_error_iff.mpr walked)

/-- A directory with a directory that may be listed but not searched, and
another one beside it. -/
def lockedTree : FileTree :=
  ⟨[], [(["r"], .openDirectory), (["r", "a"], .directory true false),
    (["r", "a", "f"], .file [] true), (["r", "b"], .openDirectory),
    (["r", "b", "g.c"], .file [59, 10] true)]⟩

theorem wellFormed_locked : lockedTree.WellFormed where
  nodup := by simp [FileTree.locations, lockedTree]
  proper := by simp [FileTree.locations, lockedTree, ProperName]

theorem barred_locked :
    Barred lockedTree ⟨⟨.root, ["r"]⟩, none, []⟩
      (.refused .permissionDenied "/r/a/f") := by
  have lists : lockedTree.lists ⟨.root, ["r"]⟩ = true := by cbv
  have listed : lockedTree.list ⟨.root, ["r", "a"]⟩ = .ok ["f"] := by cbv
  have enters : enters lockedTree ⟨⟨.root, ["r"]⟩, none, []⟩ ["a"] = true := by cbv
  have refused : lockedTree.locate true ⟨.root, ["r", "a", "f"]⟩ =
      .error .permissionDenied := by
    cbv
  have proper : ProperName "a" := by simp [ProperName]
  exact ⟨["a"], ["f"], "f", Entered.start.step lists proper enters, listed,
    List.mem_singleton_self _, rfl, .permissionDenied, refused, rfl, rfl⟩

/-- When a walk and a count return, whatever may be listed and read.  The walk returns
exactly if its start can be compared with the base and holds no NUL, and no entry of a
directory that it enters and can list refuses to be inspected; what ends it otherwise is
what that entry fails with.  The count returns exactly if the walk does, and then adds
up the files of the walk that can be read. -/
theorem count_returns_iff_entries_inspectable
    {tree : FileTree} {exclusion : Option Exclusion} {base : Option Path} {root : Path}
    (wellFormed : tree.WellFormed) :
    ((∃ paths, (files tree exclusion base root).1 = .ok paths) ↔
        Compares tree base root ∧ root.hasNull = false ∧
          ∀ failure, ¬ Barred tree ⟨root, exclusion, leadOf tree base root⟩ failure) ∧
      (∀ failure, (files tree exclusion base root).1 = .error failure →
        Compares tree base root → root.hasNull = false →
          Barred tree ⟨root, exclusion, leadOf tree base root⟩ failure) ∧
      ((∃ statistics, (ofDirectory tree exclusion base root).1 = .ok statistics) ↔
        ∃ paths, (files tree exclusion base root).1 = .ok paths) ∧
      ∀ paths, (files tree exclusion base root).1 = .ok paths →
        (ofDirectory tree exclusion base root).1 =
          .ok (ofCounts (paths.filterMap (countIn? tree))) := by
  refine ⟨returns_iff wellFormed, ?_, ?_, fun paths => ofDirectory_of_files⟩
  · intro failure ended compares noNull
    exact barred_of_files_eq_error wellFormed compares noNull ended
  · constructor
    · exact fun ⟨_, returned⟩ => files_of_ofDirectory returned
    · exact fun ⟨_, returned⟩ => ⟨_, ofDirectory_of_files returned⟩

/-- The directory that may not be searched keeps the file beside it from being
counted. -/
theorem count_returns_iff_entries_inspectable_locked :
    lockedTree.isFile ⟨.root, ["r", "b", "g.c"]⟩ = .ok true ∧
      (¬ ∃ paths, (files lockedTree none none ⟨.root, ["r"]⟩).1 = .ok paths) ∧
      ¬ ∃ statistics, (ofDirectory lockedTree none none ⟨.root, ["r"]⟩).1 =
        .ok statistics := by
  obtain ⟨walks, -, counts, -⟩ :=
    @count_returns_iff_entries_inspectable _ none none ⟨.root, ["r"]⟩ wellFormed_locked
  have stuck : ¬ ∃ paths, (files lockedTree none none ⟨.root, ["r"]⟩).1 = .ok paths :=
    fun returned => (walks.mp returned).2.2 _ barred_locked
  have proper : ∀ name ∈ ["r", "b", "g.c"], ProperName name := by simp [ProperName]
  have straight :=
    ((@FileTree.Straight.root lockedTree).down ⟨true, rfl⟩ (proper "r" (by decide))
      (by decide) ⟨_, rfl, rfl⟩).down ⟨true, rfl⟩ (proper "b" (by decide)) (by decide)
        ⟨_, rfl, rfl⟩
  have beside := straight.down ⟨true, rfl⟩ (proper "g.c" (by decide)) (by decide)
    ⟨_, rfl, rfl⟩
  have regular : lockedTree.isFile ⟨.root, ["r", "b", "g.c"]⟩ = .ok true :=
    FileTree.leadsTo_of_locate rfl (beside.locate_eq true (by decide)) _
  exact ⟨regular, stuck, mt counts.mp stuck⟩

/-- Not every walk and every count returns, even if the start of the
walk is not to blame. -/
theorem not_all_counts_return :
    ¬ ∀ (tree : FileTree) (exclusion : Option Exclusion) (base : Option Path)
      (root : Path), tree.WellFormed → Compares tree base root → root.hasNull = false →
          (∃ paths, (files tree exclusion base root).1 = .ok paths) ∧
            ∃ statistics, (ofDirectory tree exclusion base root).1 =
              .ok statistics := by
  intro returns
  have compares : Compares lockedTree none ⟨.root, ["r"]⟩ := nofun
  obtain ⟨returned, -⟩ :=
    returns lockedTree none none ⟨.root, ["r"]⟩ wellFormed_locked compares rfl
  exact ((returns_iff wellFormed_locked).mp returned).2.2 _ barred_locked

end LineStatistics
end KernelInventory
