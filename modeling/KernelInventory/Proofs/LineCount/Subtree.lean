import KernelInventory.Proofs.FileTree.Detour
import KernelInventory.Proofs.LineCount.Addition
import KernelInventory.Proofs.Walk.Subtree

/-!
# Counting subdirectories

The count of a directory is the sum of the counts of the files right in it and of the
counts of its subdirectories, category by category.  This needs a base that the
directory lies in: what is matched against the patterns are then the names below the
base, wherever the walk starts.  It also needs that everything is there on the way of
the directory's path: a path that is too long is canonical as it is written, and so the
canonical path of a subdirectory may lie elsewhere.
-/

namespace KernelInventory
namespace LineStatistics

open Walk

/-! ## What a count adds up -/

/-- The count of a file under its category, none if the file cannot be read. -/
def countIn? (tree : FileTree) (path : Path) : Option (FileType × LineCount) :=
  (LineCount.ofFile tree path).toOption.map fun count => (FileType.ofPath path, count)

theorem countIn?_of_readText
    {tree : FileTree} {path : Path} {text : List Char}
    (read : tree.readText path = .ok text) :
    countIn? tree path = some (FileType.ofPath path, LineCount.ofText text) := by
  rw [countIn?, LineCount.ofFile, read]
  rfl

section Directory

variable {tree : FileTree} {exclusion : Option Exclusion} {base : Option Path}
  {root : Path}

/-- Where there is a regular file, reading it fails only because the file is refused. -/
theorem ofFile_of_isFile
    {path : Path}
    (regular : tree.isFile path = .ok true) :
    (∃ count, LineCount.ofFile tree path = .ok count) ∨
      ∃ error place, LineCount.ofFile tree path = .error (.refused error place) := by
  obtain ⟨noNull, -⟩ := FileTree.leadsTo_eq_true_iff.mp regular
  rw [LineCount.ofFile]
  cases read : tree.readText path with
  | ok text => exact Or.inl ⟨_, rfl⟩
  | error failure =>
      obtain ⟨error, rfl⟩ := FileTree.refused_of_readText noNull read
      exact Or.inr ⟨error, path.toString, rfl⟩

/-- A finding of a walk that is not its end is not the end of the count, and it is
counted if it is a file that can be read. -/
theorem ofFinding_of_noFault
    {finding : Finding}
    (noFault : finding.fault? = none)
    (regular : ∀ path, finding.file? = some path → tree.isFile path = .ok true) :
    (Event.ofFinding tree finding).fault? = none ∧
      (Event.ofFinding tree finding).count? = finding.file?.bind (countIn? tree) := by
  cases finding with
  | file path =>
      obtain ⟨count, counted⟩ | ⟨error, place, refused⟩ :=
        ofFile_of_isFile (regular path rfl)
      · simp [Event.ofFinding, counted, Event.fault?, Event.count?,
          Finding.file?, countIn?, Except.toOption]
      · simp [Event.ofFinding, refused, Event.fault?, Event.count?,
          Finding.file?, countIn?, Except.toOption]
  | fault failure => cases noFault
  | outside _ _ | directory _ | unreadable _ _ => exact ⟨rfl, rfl⟩

/-- What ends a count at a finding of its walk is what ends the walk there. -/
theorem fault?_ofFinding
    {finding : Finding}
    (regular : ∀ path, finding.file? = some path → tree.isFile path = .ok true) :
    (Event.ofFinding tree finding).fault? = finding.fault? := by
  cases found : finding.fault? with
  | none => exact (ofFinding_of_noFault found regular).1
  | some failure =>
      cases finding with
      | fault other => exact found
      | file _ | outside _ _ | directory _ | unreadable _ _ => cases found

/-- A count fails exactly if its walk does, and for the same reason. -/
theorem ofDirectory_eq_error_iff {failure : FileFailure} :
    (ofDirectory tree exclusion base root).1 = .error failure ↔
      (files tree exclusion base root).1 = .error failure := by
  have same : ((findings tree exclusion base root).map (Event.ofFinding tree)).findSome?
      Event.fault? = failure? (findings tree exclusion base root) := by
    rw [List.findSome?_map, failure?, ← List.head?_filterMap, ← List.head?_filterMap]
    refine congrArg List.head? (List.filterMap_congr fun finding member => ?_)
    exact fault?_ofFinding fun path => isFile_of_mem_findings member
  rw [ofDirectory, files]
  dsimp only
  rw [same]
  cases failure? (findings tree exclusion base root) <;> simp

/-- Where a walk returns, the files are counted that can be read. -/
theorem ofDirectory_of_files
    {paths : List Path}
    (returned : (files tree exclusion base root).1 = .ok paths) :
    (ofDirectory tree exclusion base root).1 =
      .ok (ofCounts (paths.filterMap (countIn? tree))) := by
  obtain ⟨noFaults, same⟩ := files_eq_ok_iff_findings.mp returned
  rw [List.filterMap_eq_nil_iff] at noFaults
  have regular : ∀ path ∈ paths, tree.isFile path = .ok true :=
    fun path => isFile_of_mem_files returned
  have each : ∀ finding ∈ findings tree exclusion base root,
      (Event.ofFinding tree finding).fault? = none ∧
        (Event.ofFinding tree finding).count? = finding.file?.bind (countIn? tree) := by
    intro finding member
    refine ofFinding_of_noFault (noFaults finding member) fun path file =>
      regular path ?_
    rw [same]
    exact List.mem_filterMap.mpr ⟨finding, member, file⟩
  unfold ofDirectory
  generalize findings tree exclusion base root = found at same each
  have unbroken : (found.map (Event.ofFinding tree)).findSome? Event.fault? = none := by
    rw [List.findSome?_map, List.findSome?_eq_none_iff]
    exact fun finding member => (each finding member).1
  have whole : (found.map (Event.ofFinding tree)).takeWhile
      (fun event => event.fault?.isNone) =
      found.map (Event.ofFinding tree) := by
    rw [List.takeWhile_eq_self_iff, List.forall_mem_map]
    exact fun finding member => Option.isNone_iff_eq_none.mpr (each finding member).1
  dsimp only
  rw [unbroken, whole, List.filterMap_map, same, List.filterMap_filterMap]
  refine congrArg (fun counts => Except.ok (ofCounts counts)) ?_
  exact List.filterMap_congr fun finding member => (each finding member).2

end Directory

/-- What a count adds up is what it adds up right at its start and in each
subdirectory. -/
theorem sumOf_filesWithin
    {tree : FileTree} {scope : Scope} {names : List String}
    (wellFormed : tree.WellFormed)
    (listed : tree.list (scope.path []) = .ok names)
    (type : FileType) :
    sumOf (((filesWithin tree scope (tree.height + 1)).map scope.path).filterMap
      (countIn? tree)) type =
      sumOf ((filesHere tree scope names).filterMap fun name =>
        countIn? tree (scope.path [name])) type +
        ((subdirectories tree scope names).map fun name =>
          sumOf (((filesWithin tree (scope.down name) (tree.height + 1)).map
            (scope.down name).path).filterMap (countIn? tree)) type).sum := by
  have perm := ((perm_filesWithin wellFormed listed).map scope.path).filterMap
    (countIn? tree)
  rw [sumOf_perm perm, waysOf, List.map_append, List.filterMap_append, sumOf_append,
    List.map_map, List.filterMap_map, List.map_flatMap, List.filterMap_flatMap,
    sumOf_flatMap]
  refine congrArg₂ (· + ·) rfl
    (congrArg List.sum (List.map_congr_left fun name _ => ?_))
  have down : scope.path ∘ (name :: ·) = (scope.down name).path :=
    funext fun below => (Scope.path_down below).symm
  rw [List.map_map, down]

/-! ## The names in front of what is matched -/

section Leads

variable {tree : FileTree} {base root path outer : Path} {lead : List String}

theorem below?_child
    (inside : path.below? outer = some lead)
    (name : String) :
    (path.child name).below? outer = some (lead ++ [name]) := by
  unfold Path.below? at inside ⊢
  split at inside
  next within =>
    obtain ⟨behind, same⟩ := List.isPrefixOf_iff_prefix.mp within.2
    have nested : outer.names.isPrefixOf (path.names ++ [name]) = true :=
      List.isPrefixOf_iff_prefix.mpr
        ⟨behind ++ [name], by rw [← same, List.append_assoc]⟩
    rw [if_pos ⟨within.1, nested⟩, Path.child, List.drop_append_of_le_length]
    · rw [Option.some.inj inside]
    · rw [← same, List.length_append]
      exact Nat.le_add_right _ _
  · cases inside

/-- Where the start of a walk can be compared with the base, it can be looked up. -/
theorem leadOf_of_compares
    (compares : Compares tree (some base) root)
    (canonicalBase : tree.realPath base = .ok outer)
    (canonical : tree.realPath root = .ok path ∨
      ∃ place, tree.realPath root = .error (.linkLoop place))
    (inside : path.below? outer = some lead) :
    leadOf tree (some base) root = lead := by
  obtain same | ⟨place, looping⟩ := canonical
  · rw [leadOf, same, canonicalBase]
    dsimp only
    rw [inside]
    rfl
  · obtain ⟨names, named⟩ := compares base rfl
    simp [leadingNames, looping, bind, Except.bind] at named

end Leads

/-- The count of a directory is, for every category, the sum of the counts of the files
right in it that are not excluded and can be read, and of the counts of the
subdirectories that are neither excluded nor links. -/
def AddsUp (tree : FileTree) (exclusion : Option Exclusion) (base root : Path)
    (lead names : List String) : Prop :=
  ∃ statistics, (ofDirectory tree exclusion (some base) root).1 = .ok statistics ∧
    ∃ below : String → LineStatistics,
      (∀ name ∈ subdirectories tree ⟨root, exclusion, lead⟩ names,
        (ofDirectory tree exclusion (some base) (root.child name)).1 =
          .ok (below name)) ∧
      ∀ type, countOf statistics type =
        sumOf ((filesHere tree ⟨root, exclusion, lead⟩ names).filterMap fun name =>
            countIn? tree (root.child name)) type +
          ((subdirectories tree ⟨root, exclusion, lead⟩ names).map fun name =>
            countOf (below name) type).sum

/-! ## A directory with a pattern for it alone -/

/-- A directory with a file, a file that is excluded, a directory with files of the same
names, and a link to that. -/
def anchoredTree : FileTree :=
  ⟨[], [(["r"], .openDirectory), (["r", "a.c"], .file [120, 10, 59, 10] true),
    (["r", "x"], .file [] true), (["r", "z"], .openDirectory),
    (["r", "z", "a.c"], .file [120, 10] true), (["r", "z", "x"], .file [10] true),
    (["r", "l"], .link "z")]⟩

/-- What is named `x` in the directory is excluded, and not what is
named so deeper inside. -/
def anchoredScope : Scope :=
  ⟨⟨.root, ["r"]⟩,
    some ⟨[⟨true, .pieces [.literal 'r', .separator false, .literal 'x', .finish]⟩]⟩,
    ["r"]⟩

theorem wellFormed_anchored : anchoredTree.WellFormed where
  nodup := by simp [FileTree.locations, anchoredTree]
  proper := by simp [FileTree.locations, anchoredTree, ProperName]

theorem lookups_anchored :
    (anchoredTree.list (anchoredScope.path []) = .ok ["a.c", "l", "x", "z"] ∧
        anchoredTree.list (anchoredScope.path ["z"]) = .ok ["a.c", "x"]) ∧
      (isRealDirectory anchoredTree (anchoredScope.path ["l"]) = .ok false ∧
        anchoredTree.isFile (anchoredScope.path ["l"]) = .ok false ∧
        isRealDirectory anchoredTree (anchoredScope.path ["z"]) = .ok true) ∧
      ∀ below ∈ [["a.c"], ["x"], ["z", "a.c"], ["z", "x"]],
        isRealDirectory anchoredTree (anchoredScope.path below) = .ok false ∧
          anchoredTree.isFile (anchoredScope.path below) = .ok true := by
  have regular : ∀ below ∈ [["a.c"], ["x"], ["z", "a.c"], ["z", "x"]],
      anchoredTree.isFile (anchoredScope.path below) = .ok true := by
    simp only [List.forall_mem_cons]
    refine ⟨?_, ?_, ?_, ?_, nofun⟩
    all_goals cbv
  refine ⟨⟨?_, ?_⟩, ⟨?_, ?_, ?_⟩, fun below member =>
    ⟨isRealDirectory_of_isFile (regular below member), regular below member⟩⟩ <;> cbv

theorem skips_anchored :
    anchoredScope.skips ["a.c"] false = false ∧
      anchoredScope.skips ["l"] false = false ∧
      anchoredScope.skips ["x"] false = true ∧ anchoredScope.skips ["z"] true = false ∧
      anchoredScope.skips ["z", "a.c"] false = false ∧
      anchoredScope.skips ["z", "x"] false = false :=
  ⟨rfl, rfl, rfl, rfl, rfl, rfl⟩

theorem readings_anchored :
    (anchoredTree.realPath ⟨.root, []⟩ = .ok ⟨.root, []⟩ ∧
        anchoredTree.realPath ⟨.root, ["r"]⟩ = .ok ⟨.root, ["r"]⟩ ∧
        anchoredTree.realPath ⟨.root, ["r", "z"]⟩ = .ok ⟨.root, ["r", "z"]⟩ ∧
        anchoredTree.realLocation ⟨.root, ["r"]⟩ = .ok ["r"]) ∧
      anchoredTree.readText ⟨.root, ["r", "a.c"]⟩ = .ok ['x', '\n', ';', '\n'] ∧
        anchoredTree.readText ⟨.root, ["r", "z", "a.c"]⟩ = .ok ['x', '\n'] ∧
        anchoredTree.readText ⟨.root, ["r", "z", "x"]⟩ = .ok ['\n'] := by
  refine ⟨⟨?_, ?_, ?_, ?_⟩, ?_, ?_, ?_⟩
  all_goals cbv

theorem entries_anchored :
    filesHere anchoredTree anchoredScope ["a.c", "l", "x", "z"] = ["a.c"] ∧
      subdirectories anchoredTree anchoredScope ["a.c", "l", "x", "z"] = ["z"] := by
  obtain ⟨-, directories, regular⟩ := lookups_anchored
  simp only [List.forall_mem_cons] at regular
  simp [filesHere, subdirectories, takes, enters, directories, regular, skips_anchored]

theorem files_anchored :
    (files anchoredTree anchoredScope.exclusion (some ⟨.root, []⟩) ⟨.root, ["r"]⟩).1 =
        .ok [⟨.root, ["r", "a.c"]⟩, ⟨.root, ["r", "z", "a.c"]⟩,
          ⟨.root, ["r", "z", "x"]⟩] ∧
      (files anchoredTree anchoredScope.exclusion (some ⟨.root, []⟩)
        ⟨.root, ["r", "z"]⟩).1 =
        .ok [⟨.root, ["r", "z", "a.c"]⟩, ⟨.root, ["r", "z", "x"]⟩] := by
  obtain ⟨listed, directories, regular⟩ := lookups_anchored
  simp only [List.forall_mem_cons] at regular
  have height : anchoredTree.height + 1 = 4 := rfl
  obtain ⟨⟨canonicalBase, canonical, canonicalInside, -⟩, -⟩ := readings_anchored
  have named : leadingNames anchoredTree ⟨.root, ["r"]⟩ ⟨.root, []⟩ =
      .ok (some ["r"]) := by
    rw [leadingNames, canonical, canonicalBase]
    rfl
  have namedInside :
      leadingNames anchoredTree ⟨.root, ["r", "z"]⟩ ⟨.root, []⟩ =
        .ok (some ["r", "z"]) := by
    rw [leadingNames, canonicalInside, canonicalBase]
    rfl
  have found : findings anchoredTree anchoredScope.exclusion (some ⟨.root, []⟩)
      ⟨.root, ["r"]⟩ =
      levels anchoredTree anchoredScope 4 [[]] := by
    rw [findings, ← height]
    simp only [named]
    rfl
  have foundInside :
      findings anchoredTree anchoredScope.exclusion (some ⟨.root, []⟩)
        ⟨.root, ["r", "z"]⟩ =
        levels anchoredTree (anchoredScope.down "z") 4 [[]] := by
    rw [findings, ← height]
    simp only [namedInside]
    rfl
  constructor
  · rw [files, found]
    simp [levels_succ, levels_nil, deeper, scan, inspect, listed, directories, regular,
      skips_anchored, failure?, List.filterMap_cons, Finding.directory?, Finding.file?]
    rfl
  · rw [files, foundInside]
    simp [levels_succ, levels_nil, deeper, scan, inspect, Scope.path_down,
      Scope.skips_down, listed, regular, skips_anchored, failure?, List.filterMap_cons,
      Finding.directory?, Finding.file?]
    rfl

/-! ## A detour -/

section Detour

open FileTree (Climbs detour detourTree)

/-- What lies in the directory `d/src` is excluded. -/
def detourExclusion : Exclusion :=
  ⟨[⟨true,
    .pieces [.literal 'd', .separator false, .literal 's', .literal 'r', .literal 'c',
      .finish]⟩]⟩

/-- The tree of the detour with one line of code in either file. -/
def lineTree (target : String) : FileTree :=
  detourTree target (Text.Utf8.encode ['x', '\n']) true

/-- What the scope makes of names at the end of the detour. -/
theorem path_detour (names below lead : List String) :
    Scope.path ⟨detour names, some detourExclusion, lead⟩ below =
      detour (names ++ below) :=
  rfl

theorem skips_detour (names : List String) :
    Scope.skips ⟨detour names, some detourExclusion, ["d"]⟩ ["y"] true = false ∧
      Scope.skips ⟨detour names, some detourExclusion, ["d"]⟩ ["y", "f.c"]
        false = false ∧
      Scope.skips ⟨detour names, some detourExclusion, ["d", "src"]⟩ ["f.c"] false =
        true := by
  have decided : detourExclusion.skips (Path.toString ⟨.working, ["d", "y"]⟩)
      true = false ∧
      detourExclusion.skips (Path.toString ⟨.working, ["d", "y", "f.c"]⟩)
        false = false ∧
      detourExclusion.skips (Path.toString ⟨.working, ["d", "src", "f.c"]⟩)
        false = true :=
    ⟨rfl, rfl, rfl⟩
  exact decided

variable {target : String}

theorem realPath_lineTree_root :
    (lineTree target).realPath ⟨.root, []⟩ = .ok ⟨.root, []⟩ := by
  have located : (lineTree target).locate true (Location.path []) = .ok [] :=
    FileTree.Straight.root.locate_eq true (by decide)
  have expanded : (lineTree target).expandPath false (Location.path []) =
      .ok (.settled (Location.path [])) := by
    rw [FileTree.expandPath]
    exact FileTree.expand.eq_1 ..
  exact FileTree.realPath_of_located expanded rfl located

/-- A walk begins with the names that a canonical path has below the root directory. -/
theorem findings_lineTree
    {root : Path} {lead : List String}
    (canonical : (lineTree target).realPath root = .ok ⟨.root, lead⟩) :
    findings (lineTree target) (some detourExclusion) (some ⟨.root, []⟩) root =
      levels (lineTree target) ⟨root, some detourExclusion, lead⟩ 4 [[]] := by
  have named : leadingNames (lineTree target) root ⟨.root, []⟩ = .ok (some lead) := by
    rw [leadingNames, canonical, realPath_lineTree_root]
    rfl
  have height : (lineTree target).height + 1 = 4 := rfl
  rw [findings, height]
  simp only [named]

variable {count : Nat} (climbs : Climbs target count)

include climbs

/-- Behind both links and `..`, there is a directory with a file. -/
theorem lookups_detour :
    isRealDirectory (lineTree target) (detour ["..", "y"]) = .ok true ∧
      (lineTree target).isFile (detour ["..", "y", "f.c"]) = .ok true ∧
      isRealDirectory (lineTree target) (detour ["..", "y", "f.c"]) = .ok false := by
  have regular : (lineTree target).isFile (detour ["..", "y", "f.c"]) = .ok true :=
    FileTree.isFile_detour climbs (.inr rfl)
  have directory : (lineTree target).isDirectory (detour ["..", "y"]) = .ok true :=
    FileTree.leadsTo_of_locate rfl (FileTree.locate_detour_down climbs true) _
  have noLink : (lineTree target).isLink (detour ["..", "y"]) = .ok false :=
    FileTree.leadsTo_of_locate rfl (FileTree.locate_detour_down climbs false) _
  exact ⟨isRealDirectory_eq_true_iff.mpr ⟨directory, noLink⟩, regular,
    isRealDirectory_of_isFile regular⟩

theorem entries_detour :
    filesHere (lineTree target) ⟨detour [".."], some detourExclusion, ["d"]⟩
      ["y"] = [] ∧
      subdirectories (lineTree target) ⟨detour [".."], some detourExclusion, ["d"]⟩
        ["y"] =
        ["y"] := by
  obtain ⟨directory, -, -⟩ := lookups_detour climbs
  simp [filesHere, subdirectories, takes, enters, path_detour, directory, skips_detour]

/-- From the directory above, the file behind both links is matched as one that is not
excluded, and from its own directory as one that is. -/
theorem files_detour :
    (files (lineTree target) (some detourExclusion) (some ⟨.root, []⟩)
      (detour [".."])).1 =
        .ok [detour ["..", "y", "f.c"]] ∧
      (files (lineTree target) (some detourExclusion) (some ⟨.root, []⟩)
        (detour ["..", "y"])).1 = .ok [] := by
  obtain ⟨directory, regular, noDirectory⟩ := lookups_detour climbs
  have listed : (lineTree target).list (detour [".."]) = .ok ["y"] :=
    FileTree.list_detour_up climbs
  have listedInside : (lineTree target).list (detour ["..", "y"]) = .ok ["f.c"] :=
    FileTree.list_detour climbs (.inr rfl)
  constructor
  · rw [files, findings_lineTree (FileTree.realPath_detour_up climbs)]
    simp [levels_succ, levels_nil, deeper, scan, inspect, path_detour,
      skips_detour, listed, listedInside, directory, regular, noDirectory, failure?,
      List.filterMap_cons, Finding.directory?, Finding.file?]
    rfl
  · rw [files, findings_lineTree (FileTree.realPath_detour_down climbs)]
    simp [levels_succ, levels_nil, deeper, scan, inspect, path_detour, skips_detour,
      listedInside, noDirectory, failure?]

/-- So the count of the directory above has a line of code more than the
one of its subdirectory. -/
theorem not_addsUp_detour :
    ¬ AddsUp (lineTree target) (some detourExclusion) ⟨.root, []⟩ (detour [".."]) ["d"]
      ["y"] := by
  rintro ⟨statistics, counted, below, countedInside, sums⟩
  obtain ⟨walked, walkedInside⟩ := files_detour climbs
  obtain ⟨noFiles, subdirectory⟩ := entries_detour climbs
  rw [subdirectory, List.forall_mem_singleton] at countedInside
  have read : (lineTree target).readText (detour ["..", "y", "f.c"]) =
      .ok ['x', '\n'] :=
    FileTree.readText_detour climbs (.inr rfl) ['x', '\n']
  have whole : statistics = ofCounts [(.c, ⟨1, 0, 0, 1⟩)] := by
    have same := counted.symm.trans (ofDirectory_of_files walked)
    rw [List.filterMap_cons, countIn?_of_readText read] at same
    exact Except.ok.inj same
  have nothing : below "y" = ofCounts [] :=
    Except.ok.inj (countedInside.symm.trans (ofDirectory_of_files walkedInside))
  have sum := sums .c
  rw [noFiles, subdirectory, List.filterMap_nil, List.map_singleton, nothing,
    whole] at sum
  exact absurd sum (by decide)

end Detour

/-! ## Counts of subdirectories -/

/-- The count of a directory that lies in the base adds up the files right in it and its
subdirectories, if everything on the way of its path is there. -/
theorem count_adds_up_subdirectories
    {tree : FileTree} {exclusion : Option Exclusion} {base root inner outer : Path}
    {lead names : List String}
    (wellFormed : tree.WellFormed)
    (resolves : ∃ location, tree.realLocation root = .ok location)
    (canonical : tree.realPath root = .ok inner)
    (canonicalBase : tree.realPath base = .ok outer)
    (inside : inner.below? outer = some lead)
    (listed : tree.list root = .ok names)
    (walked : ∃ paths, (files tree exclusion (some base) root).1 = .ok paths)
    (walkedInside : ∀ name ∈ subdirectories tree ⟨root, exclusion, lead⟩ names,
      ∃ paths, (files tree exclusion (some base) (root.child name)).1 = .ok paths) :
    AddsUp tree exclusion base root lead names := by
  obtain ⟨place, located, listedAt⟩ := FileTree.of_list listed
  obtain ⟨location, resolved⟩ := resolves
  have listedHere : tree.list (Scope.path ⟨root, exclusion, lead⟩ []) = .ok names := by
    rwa [Scope.path, Path.descend, List.append_nil]
  have counted : (ofDirectory tree exclusion (some base) root).1 =
      .ok (ofCounts (((filesWithin tree ⟨root, exclusion, lead⟩ (tree.height + 1)).map
        root.descend).filterMap (countIn? tree))) := by
    obtain ⟨paths, returned⟩ := walked
    obtain ⟨compares, -, same⟩ := files_eq_ok_iff.mp returned
    rw [leadOf_of_compares compares canonicalBase (.inl canonical) inside] at same
    rw [ofDirectory_of_files returned, same]
  have countedInside : ∀ name ∈ subdirectories tree ⟨root, exclusion, lead⟩ names,
      (ofDirectory tree exclusion (some base) (root.child name)).1 =
        .ok (ofCounts (((filesWithin tree (Scope.down ⟨root, exclusion, lead⟩ name)
          (tree.height + 1)).map (root.child name).descend).filterMap
            (countIn? tree))) := by
    intro name member
    obtain ⟨paths, returned⟩ := walkedInside name member
    obtain ⟨compares, -, same⟩ := files_eq_ok_iff.mp returned
    obtain ⟨isName, entered⟩ := List.mem_filter.mp member
    obtain ⟨-, -, proper⟩ := wellFormed.of_listAt listedAt
    obtain ⟨directory, noLink⟩ :=
      isRealDirectory_eq_true_iff.mp (enters_eq_true_iff.mp entered).1
    obtain rfl := FileTree.realPath_eq_of_realLocation resolved located canonical
    rw [leadOf_of_compares compares canonicalBase
      (FileTree.realPath_child resolved located (proper name isName) directory noLink)
      (below?_child inside name)] at same
    rw [ofDirectory_of_files returned, same]
    rfl
  refine ⟨_, counted, _, countedInside, fun type => ?_⟩
  simp only [countOf_ofCounts]
  exact sumOf_filesWithin wellFormed listedHere type

/-- The files of the same name are counted together, and of those that the pattern is
about only the one right in the directory is left out. -/
theorem count_adds_up_subdirectories_anchored :
    ∃ statistics below,
      (ofDirectory anchoredTree anchoredScope.exclusion (some ⟨.root, []⟩)
        ⟨.root, ["r"]⟩).1 =
          .ok statistics ∧
        (ofDirectory anchoredTree anchoredScope.exclusion (some ⟨.root, []⟩)
          ⟨.root, ["r", "z"]⟩).1 = .ok below ∧
        countOf below .c = ⟨1, 0, 0, 1⟩ ∧ countOf statistics .c = ⟨2, 0, 1, 2⟩ ∧
        countOf below .other = ⟨1, 1, 0, 0⟩ ∧ countOf statistics .other =
          ⟨1, 1, 0, 0⟩ := by
  obtain ⟨⟨canonicalBase, canonical, -, resolved⟩, read, readInside, readOther⟩ :=
    readings_anchored
  have own : countIn? anchoredTree ⟨.root, ["r", "a.c"]⟩ = some (.c, ⟨1, 0, 1, 1⟩) :=
    countIn?_of_readText read
  have deeper : countIn? anchoredTree ⟨.root, ["r", "z", "a.c"]⟩ =
      some (.c, ⟨1, 0, 0, 1⟩) :=
    countIn?_of_readText readInside
  have other : countIn? anchoredTree ⟨.root, ["r", "z", "x"]⟩ =
      some (.other, ⟨1, 1, 0, 0⟩) :=
    countIn?_of_readText readOther
  have walkedInside : ∀ name ∈ subdirectories anchoredTree anchoredScope
      ["a.c", "l", "x", "z"], ∃ paths,
        (files anchoredTree anchoredScope.exclusion (some ⟨.root, []⟩)
          (anchoredScope.root.child name)).1 = .ok paths := by
    rw [entries_anchored.2, List.forall_mem_singleton]
    exact ⟨_, files_anchored.2⟩
  have inside : Path.below? ⟨.root, ["r"]⟩ ⟨.root, []⟩ = some anchoredScope.lead := rfl
  obtain ⟨statistics, counted, below, countedInside, sums⟩ :=
    count_adds_up_subdirectories wellFormed_anchored ⟨_, resolved⟩ canonical
      canonicalBase inside lookups_anchored.1.1 ⟨_, files_anchored.1⟩ walkedInside
  change ∀ name ∈ subdirectories anchoredTree anchoredScope _, _ at countedInside
  rw [entries_anchored.2, List.forall_mem_singleton] at countedInside
  have sum : ∀ type, countOf statistics type =
      sumOf [(.c, ⟨1, 0, 1, 1⟩)] type + countOf (below "z") type := by
    intro type
    have here := sums type
    change _ = sumOf (List.filterMap _ (filesHere anchoredTree anchoredScope _)) _ +
      (List.map _ (subdirectories anchoredTree anchoredScope _)).sum at here
    rw [entries_anchored.1, entries_anchored.2] at here
    simpa [Path.child, own] using here
  have countsInside :
      below "z" = ofCounts [(.c, ⟨1, 0, 0, 1⟩), (.other, ⟨1, 1, 0, 0⟩)] := by
    have same := countedInside.symm.trans (ofDirectory_of_files files_anchored.2)
    simpa [deeper, other] using same
  refine ⟨statistics, below "z", counted, countedInside, ?_, ?_, ?_, ?_⟩
  · rw [countsInside]
    rfl
  · rw [sum, countsInside]
    rfl
  · rw [countsInside]
    rfl
  · rw [sum, countsInside]
    rfl

/-- If something on the way of a path is not there, the count of a directory can
add up other files than the counts of its subdirectories do: a subdirectory by way
of a link too long for a path has the canonical path of another directory, and what
lies there is excluded. -/
theorem not_all_counts_add_up :
    ¬ ∀ (tree : FileTree) (exclusion : Option Exclusion) (base root inner outer : Path)
      (lead names : List String),
      tree.WellFormed →
      tree.realPath root = .ok inner →
      tree.realPath base = .ok outer →
      inner.below? outer = some lead →
      tree.list root = .ok names →
      (∃ paths, (files tree exclusion (some base) root).1 = .ok paths) →
      (∀ name ∈ subdirectories tree ⟨root, exclusion, lead⟩ names,
        ∃ paths, (files tree exclusion (some base) (root.child name)).1 = .ok paths) →
      AddsUp tree exclusion base root lead names := by
  intro addsUp
  have climbs := FileTree.climbs_detourTarget
  have walkedInside : ∀ name ∈ subdirectories (lineTree (FileTree.detourTarget 1364))
        ⟨FileTree.detour [".."], some detourExclusion, ["d"]⟩ ["y"],
      ∃ paths, (files (lineTree (FileTree.detourTarget 1364)) (some detourExclusion)
        (some ⟨.root, []⟩) ((FileTree.detour [".."]).child name)).1 = .ok paths := by
    rw [(entries_detour climbs).2, List.forall_mem_singleton]
    exact ⟨_, (files_detour climbs).2⟩
  exact not_addsUp_detour climbs (addsUp _ _ _ _ _ _ _ _ FileTree.wellFormed_detour
    (FileTree.realPath_detour_up climbs) realPath_lineTree_root rfl
    (FileTree.list_detour_up climbs) ⟨_, (files_detour climbs).1⟩ walkedInside)

end LineStatistics
end KernelInventory
