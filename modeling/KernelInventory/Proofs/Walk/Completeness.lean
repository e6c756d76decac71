import KernelInventory.Proofs.FileTree.Concealment
import KernelInventory.Proofs.Walk.Ways

/-!
# What a walk finds

A walk that returns has found exactly the files to which a way leads from its start.  It
finds each of them once, in the order of the depths and, at one depth, of the names.  A
directory that cannot be listed hides what lies below it, and nothing else.
-/

namespace KernelInventory
namespace Walk

/-- The names that lead from the canonical base of a walk to its canonical start, none
if there is no base or if the start does not lie in it. -/
def leadOf (tree : FileTree) (base : Option Path) (root : Path) : List String :=
  match base with
  | none => []
  | some base =>
    match tree.realPath root, tree.realPath base with
    | .ok canonicalRoot, .ok canonicalBase =>
        (canonicalRoot.below? canonicalBase).getD []
    | _, _ => []

/-! ## Walks that return -/

section Files

variable {tree : FileTree} {exclusion : Option Exclusion} {base : Option Path}
  {root : Path}

theorem leadingNames_eq_ok
    {directory : Path} {names : Option (List String)}
    (named : leadingNames tree root directory = .ok names) :
    leadOf tree (some directory) root = names.getD [] := by
  unfold leadingNames at named
  dsimp only [leadOf]
  cases canonicalRoot : tree.realPath root with
  | error failure =>
      rw [canonicalRoot] at named
      cases failure with
      | linkLoop place => cases named
      | nullByte | refused _ _ =>
          cases named
          rfl
  | ok start =>
      cases canonicalBase : tree.realPath directory with
      | error failure =>
          rw [canonicalRoot, canonicalBase] at named
          cases failure with
          | linkLoop place => cases named
          | nullByte | refused _ _ =>
              cases named
              rfl
      | ok outer =>
          rw [canonicalRoot, canonicalBase] at named
          cases named
          rfl

/-- The start of a walk can be compared with the base, if there is one. -/
def Compares (tree : FileTree) (base : Option Path) (root : Path) : Prop :=
  ∀ directory, base = some directory → ∃ names,
    leadingNames tree root directory = .ok names

/-- The findings of a walk are those on its levels, unless its start cannot be
compared with the base. -/
theorem findings_cases
    (tree : FileTree) (exclusion : Option Exclusion) (base : Option Path)
    (root : Path) :
    (¬ Compares tree base root ∧
        ∃ failure, findings tree exclusion base root = [.fault failure]) ∨
      Compares tree base root ∧
        ∃ warnings : List Finding,
          warnings.filterMap Finding.fault? = [] ∧
            warnings.filterMap Finding.file? = [] ∧
            findings tree exclusion base root = warnings ++
              levels tree ⟨root, exclusion, leadOf tree base root⟩ (tree.height + 1)
                [[]] := by
  unfold findings
  cases base with
  | none => exact Or.inr ⟨by rintro _ ⟨⟩, [], rfl, rfl, rfl⟩
  | some directory =>
      cases named : leadingNames tree root directory with
      | error failure =>
          refine Or.inl ⟨fun compares => ?_, failure, by simp [named]⟩
          obtain ⟨names, compared⟩ := compares directory rfl
          cases named.symm.trans compared
      | ok names =>
          have lead := leadingNames_eq_ok named
          refine Or.inr ⟨by rintro _ ⟨⟩; exact ⟨names, named⟩, ?_⟩
          cases names with
          | none => exact ⟨[.outside root directory], rfl, rfl, by simp [named, lead]⟩
          | some names => exact ⟨[], rfl, rfl, by simp [named, lead]⟩

/-- A walk returns exactly if none of its findings ends it, and then it returns
the files among them. -/
theorem files_eq_ok_iff_findings {paths : List Path} :
    (files tree exclusion base root).1 = .ok paths ↔
      (findings tree exclusion base root).filterMap Finding.fault? = [] ∧
        paths = (findings tree exclusion base root).filterMap Finding.file? := by
  rw [List.filterMap_eq_nil_iff, ← List.findSome?_eq_none_iff, ← failure?, files]
  dsimp only
  cases failure? (findings tree exclusion base root) with
  | some failure => simp
  | none => simp [eq_comm]

/-- A walk returns exactly if its start can be compared with the base and nothing on its
levels ends it, and then it returns the files on its levels. -/
theorem files_eq_ok_iff {paths : List Path} :
    (files tree exclusion base root).1 = .ok paths ↔
      Compares tree base root ∧
        (levels tree ⟨root, exclusion, leadOf tree base root⟩ (tree.height + 1)
          [[]]).filterMap Finding.fault? = [] ∧
        paths =
          (filesWithin tree ⟨root, exclusion, leadOf tree base root⟩
            (tree.height + 1)).map root.descend := by
  rw [files_eq_ok_iff_findings]
  rcases findings_cases tree exclusion base root with
    ⟨incomparable, failure, found⟩ | ⟨compares, warnings, noFaults, noFiles, found⟩
  · rw [found]
    constructor
    · rintro ⟨noFault, -⟩
      cases noFault
    · rintro ⟨compares, -⟩
      exact absurd compares incomparable
  · rw [found, List.filterMap_append, List.filterMap_append, noFaults, noFiles,
      List.nil_append, List.nil_append, filterMap_file?_levels]
    exact ⟨fun ⟨noFault, files⟩ => ⟨compares, noFault, files⟩,
      fun ⟨_, noFault, files⟩ => ⟨noFault, files⟩⟩

/-- What a walk comes upon as files are regular files, whether it returns or not. -/
theorem isFile_of_mem_findings
    {finding : Finding} {path : Path}
    (member : finding ∈ findings tree exclusion base root)
    (isFile : finding.file? = some path) :
    tree.isFile path = .ok true := by
  have yielded : path ∈ (findings tree exclusion base root).filterMap Finding.file? :=
    List.mem_filterMap.mpr ⟨finding, member, isFile⟩
  rcases findings_cases tree exclusion base root with
    ⟨-, failure, found⟩ | ⟨-, warnings, -, noFiles, found⟩
  · rw [found] at yielded
    cases yielded
  · rw [found, List.filterMap_append, noFiles, List.nil_append,
      filterMap_file?_levels] at yielded
    obtain ⟨below, within, rfl⟩ := List.mem_map.mp yielded
    obtain ⟨depth, -, atDepth⟩ := List.mem_flatMap.mp within
    obtain ⟨parent, -, child⟩ := List.mem_flatMap.mp atDepth
    exact (takes_eq_true_iff.mp (List.mem_filter.mp child).2).1

/-- What a walk yields leads to regular files. -/
theorem isFile_of_mem_files
    {paths : List Path}
    (returned : (files tree exclusion base root).1 = .ok paths)
    {path : Path}
    (member : path ∈ paths) :
    tree.isFile path = .ok true := by
  obtain ⟨-, rfl⟩ := files_eq_ok_iff_findings.mp returned
  obtain ⟨finding, found, isFile⟩ := List.mem_filterMap.mp member
  exact isFile_of_mem_findings found isFile

end Files

/-! ## Directories that cannot be listed -/

section Concealment

variable {tree : FileTree} {scope : Scope} {hidden : Location → Bool}

theorem lists_of_conceal
    {path : Path}
    (lists : (tree.conceal hidden).lists path = true) :
    tree.lists path = true := by
  obtain ⟨names, listed⟩ := FileTree.lists_iff.mp lists
  rcases tree.list_conceal hidden path with same | ⟨error, place, refused⟩
  · exact FileTree.lists_iff.mpr ⟨names, same ▸ listed⟩
  · rw [refused] at listed
    cases listed

theorem isRealDirectory_conceal (path : Path) :
    isRealDirectory (tree.conceal hidden) path = isRealDirectory tree path := by
  have same := tree.sameOutline_conceal hidden
  rw [isRealDirectory, isRealDirectory, same.isDirectory_eq, same.isLink_eq]

theorem inspect_conceal (below : List String) :
    inspect (tree.conceal hidden) scope below = inspect tree scope below := by
  rw [inspect, inspect, isRealDirectory_conceal,
    (tree.sameOutline_conceal hidden).isFile_eq]

theorem enters_conceal (below : List String) :
    enters (tree.conceal hidden) scope below = enters tree scope below := by
  rw [enters, enters, isRealDirectory_conceal]

theorem leadingNames_conceal (root directory : Path) :
    leadingNames (tree.conceal hidden) root directory = leadingNames tree root
      directory := by
  have same := tree.sameOutline_conceal hidden
  rw [leadingNames, leadingNames, same.realPath_eq, same.realPath_eq]

theorem leadOf_conceal (base : Option Path) (root : Path) :
    leadOf (tree.conceal hidden) base root = leadOf tree base root := by
  have same := tree.sameOutline_conceal hidden
  simp only [leadOf, same.realPath_eq]

theorem height_conceal : (tree.conceal hidden).height = tree.height := by
  rw [FileTree.height, FileTree.height, FileTree.locations_conceal]

theorem Entered.of_conceal
    {below : List String}
    (entered : Entered (tree.conceal hidden) scope below) :
    Entered tree scope below := by
  induction entered with
  | start => exact Entered.start
  | step _ lists proper enters inductionHypothesis =>
      exact inductionHypothesis.step (lists_of_conceal lists) proper
        ((enters_conceal _).symm.trans enters)

/-- Whether the start of a walk and all directories on a way can be listed. -/
def listsAlong (tree : FileTree) (root : Path) (below : List String) : Bool :=
  (List.range below.length).all fun count =>
    tree.lists (root.descend (below.take count))

theorem yields_conceal_iff {below : List String} :
    Yields (tree.conceal hidden) scope below ↔
      Yields tree scope below ∧ listsAlong (tree.conceal hidden) scope.root below =
        true := by
  rw [listsAlong, List.all_eq_true]
  constructor
  · rintro ⟨nonempty, proper, lists, enters, regular, kept⟩
    refine ⟨⟨nonempty, proper, ?_, ?_, ?_, kept⟩, ?_⟩
    · exact fun count fewer => lists_of_conceal (lists count fewer)
    · exact fun count positive fewer =>
        (isRealDirectory_conceal _).symm.trans (enters count positive fewer)
    · exact ((tree.sameOutline_conceal hidden).isFile_eq _).symm.trans regular
    · exact fun count member => lists count (List.mem_range.mp member)
  · rintro ⟨⟨nonempty, proper, -, enters, regular, kept⟩, lists⟩
    refine ⟨nonempty, proper, ?_, ?_, ?_, kept⟩
    · exact fun count fewer => lists count (List.mem_range.mpr fewer)
    · exact fun count positive fewer =>
        (isRealDirectory_conceal _).trans (enters count positive fewer)
    · exact ((tree.sameOutline_conceal hidden).isFile_eq _).trans regular

/-- What ends a walk of a tree in which some directories cannot be listed,
ends that of the tree. -/
theorem faultless_conceal
    (wellFormed : tree.WellFormed)
    (faultless :
      (levels tree scope (tree.height + 1) [[]]).filterMap Finding.fault? = []) :
    (levels (tree.conceal hidden) scope ((tree.conceal hidden).height + 1)
      [[]]).filterMap Finding.fault? = [] := by
  rw [List.filterMap_eq_nil_iff] at faultless ⊢
  intro finding member
  rw [height_conceal, levels_eq, List.mem_flatMap] at member
  obtain ⟨depth, inRange, member⟩ := member
  obtain ⟨below, onLevel, found⟩ := List.mem_flatMap.mp member
  obtain ⟨entered, length⟩ := (mem_level_iff (wellFormed.conceal hidden)).mp onLevel
  rw [scan] at found
  rcases tree.list_conceal hidden (scope.path below) with same | ⟨error, place, refused⟩
  · apply faultless
    rw [levels_eq, List.mem_flatMap]
    refine ⟨depth, inRange, List.mem_flatMap.mpr ⟨below, ?_, ?_⟩⟩
    · exact (mem_level_iff wellFormed).mpr ⟨entered.of_conceal, length⟩
    · rw [scan, ← same]
      simpa only [inspect_conceal] using found
  · rw [refused] at found
    obtain rfl := List.mem_singleton.mp found
    rfl

end Concealment

/-! ## A directory with a link -/

/-- A directory with a directory, a link to that, and a file. -/
def linkedTree : FileTree :=
  ⟨[],
    [(["r"], .openDirectory), (["r", "z"], .openDirectory),
      (["r", "z", "f"], .file [] true),
    (["r", "l"], .link "z"), (["r", "x"], .file [] true)]⟩

/-- What is named `x` in the directory is excluded. -/
def linkedScope : Scope :=
  ⟨⟨.root, ["r"]⟩,
    some ⟨[⟨true, .pieces [.literal 'r', .separator false, .literal 'x', .finish]⟩]⟩,
    ["r"]⟩

theorem wellFormed_linked : linkedTree.WellFormed where
  nodup := by simp [FileTree.locations, linkedTree]
  proper := by simp [FileTree.locations, linkedTree, ProperName]

theorem lookups_linked :
    (linkedTree.list (linkedScope.path []) = .ok ["l", "x", "z"] ∧
        linkedTree.list (linkedScope.path ["z"]) = .ok ["f"]) ∧
      (isRealDirectory linkedTree (linkedScope.path ["l"]) = .ok false ∧
        isRealDirectory linkedTree (linkedScope.path ["x"]) = .ok false ∧
        isRealDirectory linkedTree (linkedScope.path ["z"]) = .ok true ∧
        isRealDirectory linkedTree (linkedScope.path ["z", "f"]) = .ok false) ∧
      (linkedTree.isFile (linkedScope.path ["l"]) = .ok false ∧
        linkedTree.isFile (linkedScope.path ["z", "f"]) = .ok true) ∧
      linkedTree.realPath ⟨.root, ["r"]⟩ = .ok ⟨.root, ["r"]⟩ ∧
        linkedTree.realPath ⟨.root, []⟩ = .ok ⟨.root, []⟩ := by
  refine ⟨⟨?_, ?_⟩, ⟨?_, ?_, ?_, ?_⟩, ⟨?_, ?_⟩, ?_, ?_⟩
  all_goals cbv

theorem skips_linked :
    linkedScope.skips ["l"] false = false ∧ linkedScope.skips ["x"] false = true ∧
      linkedScope.skips ["z"] true = false ∧
      linkedScope.skips ["z", "f"] false = false :=
  ⟨rfl, rfl, rfl, rfl⟩

theorem scan_linked :
    scan linkedTree linkedScope [] = [.directory ["z"]] ∧
      scan linkedTree linkedScope ["z"] = [.file (linkedScope.path ["z", "f"])] := by
  obtain ⟨listed, directories, regular, -⟩ := lookups_linked
  constructor
  · simp [scan, inspect, listed, directories, regular, skips_linked]
  · simp [scan, inspect, listed, directories, regular, skips_linked]

theorem files_linked :
    (files linkedTree linkedScope.exclusion (some ⟨.root, []⟩) ⟨.root, ["r"]⟩).1 =
      .ok [⟨.root, ["r", "z", "f"]⟩] := by
  obtain ⟨-, -, -, canonical, canonicalBase⟩ := lookups_linked
  have named : leadingNames linkedTree ⟨.root, ["r"]⟩ ⟨.root, []⟩ =
      .ok (some ["r"]) := by
    rw [leadingNames, canonical, canonicalBase]
    rfl
  have height : linkedTree.height + 1 = 4 := rfl
  have levels : levels linkedTree linkedScope (linkedTree.height + 1) [[]] =
      [.directory ["z"], .file (linkedScope.path ["z", "f"])] := by
    rw [height]
    simp [levels_succ, levels_nil, deeper, scan_linked, List.filterMap_cons,
      Finding.directory?]
  have found : findings linkedTree linkedScope.exclusion (some ⟨.root, []⟩)
      ⟨.root, ["r"]⟩ =
      [.directory ["z"], .file (linkedScope.path ["z", "f"])] := by
    rw [findings]
    simp only [named]
    exact levels
  rw [files, found]
  rfl

/-! ## The files of a walk -/

section Completeness

variable {tree : FileTree} {exclusion : Option Exclusion} {base : Option Path}
  {root : Path}

theorem descend_injective (root : Path) : Function.Injective root.descend := by
  intro left right same
  exact List.append_cancel_left (congrArg Path.names same)

/-- A walk that returns has found the files to which a way leads, and no others.  It has
each of them once, and they stand in the order of the number of names behind the start,
and then of these names.  If some of the directories could not be listed, the walk would
return as well, without the files that lie below one of them. -/
theorem files_complete
    (wellFormed : tree.WellFormed)
    {paths : List Path}
    (returned : (files tree exclusion base root).1 = .ok paths) :
    (∀ below, root.descend below ∈ paths ↔
        Yields tree ⟨root, exclusion, leadOf tree base root⟩ below) ∧
      paths.Nodup ∧
      ∃ belows : List (List String),
        paths = belows.map root.descend ∧
          belows.Pairwise Before ∧
          ∀ hidden,
            (files (tree.conceal hidden) exclusion base root).1 =
              .ok ((belows.filter (listsAlong (tree.conceal hidden) root)).map
                root.descend) := by
  obtain ⟨compares, faultless, rfl⟩ := files_eq_ok_iff.mp returned
  have inOrder := @pairwise_before_filesWithin tree
    ⟨root, exclusion, leadOf tree base root⟩ wellFormed (tree.height + 1)
  refine ⟨?_, ?_, _, rfl, inOrder, ?_⟩
  · intro below
    rw [List.mem_map_of_injective (descend_injective root)]
    exact mem_filesWithin_iff wellFormed
  · exact inOrder.nodup.map (descend_injective root)
  · intro hidden
    have concealed := wellFormed.conceal hidden
    rw [files_eq_ok_iff, leadOf_conceal]
    refine ⟨?_, faultless_conceal wellFormed faultless, ?_⟩
    · intro directory given
      rw [leadingNames_conceal]
      exact compares directory given
    · refine congrArg (List.map root.descend) ((inOrder.filter _).eq_of_mem_iff
        (pairwise_before_filesWithin concealed _) fun below => ?_)
      rw [List.mem_filter, mem_filesWithin_iff wellFormed,
        mem_filesWithin_iff concealed, yields_conceal_iff]

/-- The walk through the directory finds the file in its directory, and finds neither
that file behind the link, nor the file that is excluded; and it finds nothing if the
directory in there cannot be listed. -/
theorem files_complete_linked :
    (files linkedTree linkedScope.exclusion (some ⟨.root, []⟩) ⟨.root, ["r"]⟩).1 =
        .ok [⟨.root, ["r", "z", "f"]⟩] ∧
      Yields linkedTree linkedScope ["z", "f"] ∧
      ¬ Yields linkedTree linkedScope ["l", "f"] ∧
      ¬ Yields linkedTree linkedScope ["x"] ∧
      (files (linkedTree.conceal (· = ["r", "z"])) linkedScope.exclusion
        (some ⟨.root, []⟩) ⟨.root, ["r"]⟩).1 = .ok [] := by
  obtain ⟨found, -, belows, same, -, concealed⟩ :=
    files_complete wellFormed_linked files_linked
  have lead : leadOf linkedTree (some ⟨.root, []⟩) ⟨.root, ["r"]⟩ = ["r"] := by
    obtain ⟨-, -, -, canonical, canonicalBase⟩ := lookups_linked
    rw [leadOf, canonical, canonicalBase]
    rfl
  rw [lead] at found
  refine ⟨files_linked, (found _).mp List.mem_cons_self, ?_, ?_, ?_⟩
  · exact mt (found ["l", "f"]).mpr (by simp [Path.descend])
  · exact mt (found ["x"]).mpr (by simp [Path.descend])
  · obtain rfl : [["z", "f"]] = belows :=
      List.map_injective_iff.mpr (descend_injective ⟨.root, ["r"]⟩) same
    rw [concealed]
    have hidden : listsAlong (linkedTree.conceal (· = ["r", "z"])) ⟨.root, ["r"]⟩
        ["z", "f"] =
        false := by
      cbv
    simp [hidden]

end Completeness
end Walk
end KernelInventory
