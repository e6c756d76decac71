import KernelInventory.Proofs.FileTree.Naming
import KernelInventory.Resolution.Basic

/-!
# The kernel root of an entry file

The kernel root is looked for among the directories that the path of the entry file
is written below, without a look at where the names `..` in that path lead.  It is
the nearest directory above the file that is named for the version, unless the path
leaves the last directory of that name again.  Then the directory that is found does
not hold the file at all.
-/

namespace KernelInventory
namespace Path

/-! ## Directories as written -/

/-- The nearest ancestor of an entry of a directory is the directory. -/
theorem ancestors_child (path : Path) (name : String) :
    (path.child name).ancestors = path :: path.ancestors := by
  unfold ancestors child
  rw [List.length_append, List.length_singleton, List.range_succ, List.reverse_append,
    List.reverse_singleton, List.singleton_append, List.map_cons, List.take_left]
  congr 1
  refine List.map_congr_left fun count member => ?_
  have within : count < path.names.length :=
    List.mem_range.mp (List.mem_reverse.mp member)
  rw [List.take_append_of_le_length within.le]

theorem name_child (path : Path) (name : String) : (path.child name).name = name := by
  simp [Path.name, child]

/-- The nearest ancestor with a name ends where that name stands for the last time. -/
theorem find?_ancestors_of_last
    {target : String}
    (anchor : Anchor) (front : List String) {behind : List String}
    (absent : target ∉ behind)
    (name : String) :
    ((⟨anchor, front ++ target :: behind⟩ : Path).child name).ancestors.find?
        (fun directory => directory.name = target) =
      some ⟨anchor, front ++ [target]⟩ := by
  induction behind using List.reverseRecOn generalizing name with
  | nil =>
      rw [ancestors_child, List.find?_cons_of_pos]
      exact decide_eq_true (name_child ⟨anchor, front⟩ target)
  | append_singleton others last inductionHypothesis =>
      have written : (⟨anchor, front ++ target :: (others ++ [last])⟩ : Path) =
          (⟨anchor, front ++ target :: others⟩ : Path).child last := by
        simp [child]
      rw [List.mem_append, not_or, List.mem_singleton] at absent
      rw [written, ancestors_child, List.find?_cons_of_neg]
      · exact inductionHypothesis absent.1 last
      · rw [name_child, decide_eq_true_iff]
        exact fun same => absent.2 same.symm

/-- Without the name, there is no ancestor of that name. -/
theorem find?_ancestors_of_not_mem
    {target : String}
    (nonempty : target ≠ "")
    (anchor : Anchor) {names : List String}
    (absent : target ∉ names)
    (name : String) :
    ((⟨anchor, names⟩ : Path).child name).ancestors.find?
      (fun directory => directory.name = target) = none := by
  induction names using List.reverseRecOn generalizing name with
  | nil =>
      rw [ancestors_child, List.find?_cons_of_neg]
      · rfl
      · rw [decide_eq_true_iff]
        exact nonempty.symm
  | append_singleton others last inductionHypothesis =>
      have written : (⟨anchor, others ++ [last]⟩ : Path) =
          (⟨anchor, others⟩ : Path).child last := rfl
      rw [List.mem_append, not_or, List.mem_singleton] at absent
      rw [written, ancestors_child, List.find?_cons_of_neg]
      · exact inductionHypothesis absent.1 last
      · rw [name_child, decide_eq_true_iff]
        exact fun same => absent.2 same.symm

end Path

namespace Resolution

open FileTree

/-! ## Kernel roots -/

/-- The name of a directory that holds the sources of a version. -/
def rootName (version : String) : String :=
  "linux-" ++ version

theorem rootName_ne_empty (version : String) : rootName version ≠ "" := by
  intro same
  simpa [rootName] using congrArg String.toList same

theorem rootName_ne_up (version : String) : rootName version ≠ ".." := by
  intro same
  simpa [rootName] using congrArg String.toList same

/-- A directory on the way from the root down to a file has the name of a version. -/
structure RootAbove (tree : FileTree) (version : String) (file place : Location) :
    Prop where
  onTheWay : place <+: file
  directory : tree.HasDirectory place
  named : place.getLast? = some (rootName version)

/-- The lookup of the kernel root does what it is for: it finds a directory
exactly when one above the file is named for the version, and the directory
is the nearest of them. -/
structure FindsNearestRoot (tree : FileTree) (version : String) (entry : Path)
    (file : Location) :
    Prop where
  found_iff :
    (findKernelRoot tree entry version).isSome ↔
      ∃ place, RootAbove tree version file place
  nearest : ∀ root, findKernelRoot tree entry version = some root →
    ∃ place, tree.Names root place ∧ RootAbove tree version file place ∧
      ∀ other, RootAbove tree version file other → other <+: place

/-- Names enter a directory that is named for a version and leave it again, and enter
none of that name afterwards. -/
def LeavesRoot (version : String) (names : List String) : Prop :=
  ∃ front behind, names = front ++ rootName version :: behind ∧
    rootName version ∉ behind ∧
    Path.ClimbsPast 0 behind

section Lookup

variable {tree : FileTree} {version name : String} {entry : Path} {anchor : Anchor}
  {names front behind : List String} {directory place : Location}

theorem findKernelRoot_of_last
    (written : entry.absolute tree.home =
      (⟨anchor, front ++ rootName version :: behind⟩ : Path).child name)
    (absent : rootName version ∉ behind) :
    findKernelRoot tree entry version = some ⟨anchor, front ++ [rootName version]⟩ := by
  rw [findKernelRoot, written]
  exact Path.find?_ancestors_of_last anchor front absent name

theorem findKernelRoot_of_not_mem
    (written : entry.absolute tree.home = (⟨anchor, names⟩ : Path).child name)
    (absent : rootName version ∉ names) :
    findKernelRoot tree entry version = none := by
  rw [findKernelRoot, written]
  exact Path.find?_ancestors_of_not_mem (rootName_ne_empty version) anchor absent name

/-- Whatever is named for the version above a file is so above or at the
directory of the file. -/
theorem rootAbove_iff
    (rooted : tree.Rooted directory)
    (isFile : (tree.node? (directory ++ [name])).any Node.isFile = true) :
    RootAbove tree version (directory ++ [name]) place ↔
      place <+: directory ∧ place.getLast? = some (rootName version) := by
  constructor
  · rintro ⟨onTheWay, isDirectory, named⟩
    rcases List.prefix_concat_iff.mp onTheWay with rfl | onTheWay
    · rw [isDirectory.not_file] at isFile
      cases isFile
    · exact ⟨onTheWay, named⟩
  · rintro ⟨onTheWay, named⟩
    exact ⟨onTheWay.trans (List.prefix_append directory [name]),
      rooted place onTheWay, named⟩

/-- Behind the last directory with a name, nothing ends in that name. -/
theorem prefix_of_last
    {target : String} {below other : Location}
    (absent : target ∉ below)
    (onTheWay : other <+: place ++ below)
    (named : other.getLast? = some target) :
    other <+: place := by
  rcases List.prefix_or_prefix_of_prefix onTheWay (List.prefix_append place below) with
    isPrefix | ⟨behind, rfl⟩
  · exact isPrefix
  · rw [List.prefix_append_right_inj] at onTheWay
    rcases List.eq_nil_or_concat behind with rfl | ⟨others, last, rfl⟩
    · rw [List.append_nil]
    · rw [List.concat_eq_append] at onTheWay named
      obtain rfl : last = target := by simpa [← List.append_assoc] using named
      exact absurd (onTheWay.subset (by simp)) absent

/-- Names that enter a directory lead to it, and from there to a place below it unless
they climb out of it. -/
theorem exists_entered
    (goes : tree.GoesTo [] (front ++ rootName version :: behind) directory)
    (isDirectory : tree.HasDirectory directory)
    (absent : rootName version ∉ behind) :
    ∃ above, tree.GoesTo [] (front ++ [rootName version])
      (above ++ [rootName version]) ∧
      tree.HasDirectory (above ++ [rootName version]) ∧
      directory = behind.foldl Path.collapseStep (above ++ [rootName version]) ∧
      (above ++ [rootName version] <+: directory ↔ ¬ Path.ClimbsPast 0 behind) := by
  rw [List.append_cons] at goes
  obtain ⟨entered, enters, onward⟩ := goes.split
  have place : front.foldl Path.collapseStep [] ++ [rootName version] = entered := by
    rw [← enters.foldl_eq, List.foldl_append, List.foldl_cons, List.foldl_nil,
      Path.collapseStep_down (rootName_ne_up version)]
  subst place
  refine ⟨_, enters, onward.directory_start isDirectory, onward.foldl_eq.symm, ?_⟩
  have stays_iff :=
    Path.prefix_foldl_collapseStep_iff (front.foldl Path.collapseStep []) absent []
  rw [List.append_nil, onward.foldl_eq] at stays_iff
  exact stays_iff

/-- Where the name of the version is not written, no directory above the file has it. -/
theorem findsNearestRoot_of_not_mem
    (written : entry.absolute tree.home = (⟨anchor, names⟩ : Path).child name)
    (goes : tree.GoesTo [] names directory)
    (rooted : tree.Rooted directory)
    (isFile : (tree.node? (directory ++ [name])).any Node.isFile = true)
    (absent : rootName version ∉ names) :
    FindsNearestRoot tree version entry (directory ++ [name]) := by
  have found := findKernelRoot_of_not_mem written absent
  have none_above : rootName version ∉ directory := by
    have count_le := Path.count_foldl_collapseStep_le (rootName version) names []
    rw [goes.foldl_eq, List.count_nil, List.count_eq_zero.mpr absent] at count_le
    exact List.count_eq_zero.mp (Nat.le_zero.mp count_le)
  refine ⟨iff_of_false (by rw [found]; exact Bool.false_ne_true) ?_, fun root isRoot =>
    ?_⟩
  · rintro ⟨place, isAbove⟩
    obtain ⟨onTheWay, named⟩ := (rootAbove_iff rooted isFile).mp isAbove
    exact none_above (onTheWay.subset (List.mem_of_getLast? named))
  · rw [found] at isRoot
    cases isRoot

/-- A directory that is entered and not left again is the nearest one of its name. -/
theorem findsNearestRoot_of_stays
    (written : entry.absolute tree.home =
      (⟨anchor, front ++ rootName version :: behind⟩ : Path).child name)
    (absolute : anchor ≠ .working)
    (goes : tree.GoesTo [] (front ++ rootName version :: behind) directory)
    (rooted : tree.Rooted directory)
    (isFile : (tree.node? (directory ++ [name])).any Node.isFile = true)
    (absent : rootName version ∉ behind)
    (stays : ¬ Path.ClimbsPast 0 behind) :
    FindsNearestRoot tree version entry (directory ++ [name]) := by
  obtain ⟨above, enters, isDirectory, leads, holds_iff⟩ :=
    exists_entered goes rooted.directory absent
  have found := findKernelRoot_of_last written absent
  have holds := holds_iff.mpr stays
  have isAbove : RootAbove tree version (directory ++ [name])
      (above ++ [rootName version]) :=
    (rootAbove_iff rooted isFile).mpr ⟨holds, by simp⟩
  refine ⟨iff_of_true (by rw [found]; rfl) ⟨_, isAbove⟩, fun root isRoot => ?_⟩
  obtain rfl := Option.some.inj (found.symm.trans isRoot)
  refine ⟨above ++ [rootName version], ?_, isAbove, fun other otherAbove => ?_⟩
  · exact (names_iff_of_anchor absolute).mpr enters
  · obtain ⟨onTheWay, named⟩ := (rootAbove_iff rooted isFile).mp otherAbove
    obtain ⟨below, rfl⟩ := holds
    have count_le := Path.count_foldl_collapseStep_le (rootName version) behind
      (above ++ [rootName version])
    rw [← leads, List.count_append, List.count_eq_zero.mpr absent] at count_le
    exact prefix_of_last (List.count_eq_zero.mp (by omega)) onTheWay named

/-- A directory that is left again does not hold the file, and is found all the same. -/
theorem exists_root_of_leaves
    (written : entry.absolute tree.home = (⟨anchor, names⟩ : Path).child name)
    (absolute : anchor ≠ .working)
    (goes : tree.GoesTo [] names directory)
    (rooted : tree.Rooted directory)
    (isFile : (tree.node? (directory ++ [name])).any Node.isFile = true)
    (leaves : LeavesRoot version names) :
    ∃ root place, findKernelRoot tree entry version = some root ∧
      tree.Names root place ∧
      tree.HasDirectory place ∧ ¬ place <+: directory ++ [name] := by
  obtain ⟨front, behind, rfl, absent, climbs⟩ := leaves
  obtain ⟨above, enters, isDirectory, -, holds_iff⟩ :=
    exists_entered goes rooted.directory absent
  refine ⟨_, above ++ [rootName version], findKernelRoot_of_last written absent,
    (names_iff_of_anchor absolute).mpr enters, isDirectory, fun holds => ?_⟩
  have isAbove : RootAbove tree version (directory ++ [name])
      (above ++ [rootName version]) :=
    ⟨holds, isDirectory, by simp⟩
  exact holds_iff.mp ((rootAbove_iff rooted isFile).mp isAbove).1 climbs

end Lookup

/-- Where a name is written, it is written for a last time. -/
theorem exists_last_of_mem
    {name : String} {names : List String}
    (member : name ∈ names) :
    ∃ front behind, names = front ++ name :: behind ∧ name ∉ behind := by
  obtain ⟨behind, front, reversed, absent⟩ :=
    List.eq_append_cons_of_mem (List.mem_reverse.mpr member)
  refine ⟨front.reverse, behind.reverse, ?_, by simpa using absent⟩
  simpa using congrArg List.reverse reversed

/-! ## A tree with two directories -/

/-- A kernel tree beside another directory, each of them with a configuration file. -/
def pairTree : FileTree :=
  ⟨[], [(["linux-1"], .openDirectory), (["linux-1", "Kconfig"], .file [] true),
    (["other"], .openDirectory), (["other", "Kconfig"], .file [] true)]⟩

/-- The path of the file in the kernel tree, through the other directory. -/
def enteringPath : Path :=
  ⟨.working, ["other", "..", "linux-1", "Kconfig"]⟩

/-- The path of the other file, through the kernel tree. -/
def leavingPath : Path :=
  ⟨.working, ["linux-1", "..", "other", "Kconfig"]⟩

theorem wellFormed_pairTree : pairTree.WellFormed where
  nodup := by simp [FileTree.locations, pairTree]
  proper := by simp [FileTree.locations, pairTree, ProperName]

theorem noLinks_pairTree : ∀ entry ∈ pairTree.entries, entry.2.isLink = false := by
  decide

theorem locate_pairTree :
    pairTree.locate true enteringPath = .ok ["linux-1", "Kconfig"] ∧
      pairTree.locate true leavingPath = .ok ["other", "Kconfig"] := by
  constructor
  · cbv
  · cbv

theorem isFile_pairTree :
    pairTree.isFile enteringPath = .ok true ∧ pairTree.isFile leavingPath = .ok true :=
  ⟨leadsTo_of_locate (by decide) locate_pairTree.1 Node.isFile,
    leadsTo_of_locate (by decide) locate_pairTree.2 Node.isFile⟩

/-- The nearest directory above an entry file that is named for the version is
found, and none is found where there is none, unless the path of the file leaves
the last directory of that name again. Then that directory is found, and the file
does not lie below it. -/
theorem finds_nearest_root_iff
    {tree : FileTree}
    (wellFormed : tree.WellFormed)
    (housed : tree.Rooted tree.workingDirectory)
    (version : String)
    {entry : Path} {file : Location}
    (named : tree.Names entry file)
    (isFile : (tree.node? file).any Node.isFile = true) :
    (FindsNearestRoot tree version entry file ↔
        ¬ LeavesRoot version (entry.absolute tree.home).parent.names) ∧
      (LeavesRoot version (entry.absolute tree.home).parent.names →
        ∃ root place, findKernelRoot tree entry version = some root ∧
          tree.Names root place ∧
          tree.HasDirectory place ∧ ¬ place <+: file) := by
  have absolute := tree.anchor_absolute_ne entry
  obtain ⟨names, name, directory, all, rfl, goes, rooted⟩ :=
    ((names_iff_of_anchor absolute).mp (named.absolute wellFormed housed)).to_file
      tree.rooted_nil isFile
  have written : entry.absolute tree.home =
      (⟨(entry.absolute tree.home).anchor, names⟩ : Path).child name := by
    rw [Path.child, ← all]
  have above : (entry.absolute tree.home).parent.names = names := by
    rw [Path.parent, all, List.dropLast_concat]
  rw [above]
  have leaves (leavesRoot : LeavesRoot version names) :=
    exists_root_of_leaves written absolute goes rooted isFile leavesRoot
  refine ⟨⟨fun finds leavesRoot => ?_, fun stays => ?_⟩, leaves⟩
  · obtain ⟨root, place, found, isPlace, -, outside⟩ := leaves leavesRoot
    obtain ⟨other, isOther, isAbove, -⟩ := finds.nearest root found
    obtain rfl : place = other := isPlace.foldl_eq.symm.trans isOther.foldl_eq
    exact outside isAbove.onTheWay
  · by_cases member : rootName version ∈ names
    · obtain ⟨front, behind, rfl, absent⟩ := exists_last_of_mem member
      exact findsNearestRoot_of_stays written absolute goes rooted isFile absent
        fun climbs => stays ⟨front, behind, rfl, absent, climbs⟩
    · exact findsNearestRoot_of_not_mem written goes rooted isFile member

theorem finds_nearest_root_iff_pair :
    FindsNearestRoot pairTree "1" enteringPath ["linux-1", "Kconfig"] ∧
      ∃ root place, findKernelRoot pairTree leavingPath "1" = some root ∧
        pairTree.Names root place ∧ pairTree.HasDirectory place ∧
        ¬ place <+: ["other", "Kconfig"] := by
  obtain ⟨entering, leaving⟩ := locate_pairTree
  have named := names_of_locate noLinks_pairTree (by decide) entering
  have namedOther := names_of_locate noLinks_pairTree (by decide) leaving
  constructor
  · refine (finds_nearest_root_iff wellFormed_pairTree pairTree.rooted_nil "1" named
      rfl).1.mpr ?_
    rintro ⟨front, behind, same, absent, climbs⟩
    replace same : ["other", "..", rootName "1"] = front ++ rootName "1" :: behind :=
      same
    rcases List.eq_nil_or_concat behind with rfl | ⟨others, last, rfl⟩
    · exact Path.not_climbsPast_nil 0 climbs
    · have whole : ["other", ".."] ++ [rootName "1"] =
          front ++ rootName "1" :: others ++ [last] := by
        simpa using same
      obtain rfl := List.singleton_inj.mp (List.append_inj' whole rfl).2
      exact absent (by simp)
  · refine (finds_nearest_root_iff wellFormed_pairTree pairTree.rooted_nil "1"
      namedOther rfl).2 ?_
    exact ⟨[], ["..", "other"], by decide, by decide, Path.climbsPast_zero_up ["other"]⟩

theorem not_all_roots_above :
    ¬ ∀ (tree : FileTree) (version text : String) (file : Location),
      tree.WellFormed →
      (∀ entry ∈ tree.entries, entry.2.isLink = false) →
      tree.Rooted tree.workingDirectory →
      tree.isFile (Path.ofString text) = .ok true →
      tree.locate true (Path.ofString text) = .ok file →
      FindsNearestRoot tree version (Path.ofString text) file := by
  intro finds
  have written : Path.ofString "linux-1/../other/Kconfig" = leavingPath := rfl
  have nearest := finds pairTree "1" "linux-1/../other/Kconfig" ["other", "Kconfig"]
    wellFormed_pairTree noLinks_pairTree pairTree.rooted_nil
    (written ▸ isFile_pairTree.2) (written ▸ locate_pairTree.2)
  have found : (findKernelRoot pairTree leavingPath "1").isSome := rfl
  obtain ⟨place, isAbove⟩ := nearest.found_iff.mp (written ▸ found)
  have member := isAbove.onTheWay.subset (List.mem_of_getLast? isAbove.named)
  exact absurd member (by decide)

end Resolution
end KernelInventory
