import KernelInventory.Proofs.Walk.Levels

/-!
# The ways of a walk

The names that lead from the start of a walk to a directory that it enters, or to a file
that it takes, are a way: every directory on it can be listed and is no link, and the
exclusion skips nothing on it.  The directories of a level are those to which a way of
its depth leads; no way is longer than the tree is high, so that the levels that a walk
goes through have all files to which a way leads.
-/

namespace KernelInventory

namespace FileTree

/-- Whether a path can be listed. -/
def lists (tree : FileTree) (path : Path) : Bool :=
  (tree.list path).isOk

theorem lists_iff {tree : FileTree} {path : Path} :
    tree.lists path = true ↔ ∃ names, tree.list path = .ok names := by
  unfold lists
  cases tree.list path with
  | error failure => simp [Except.isOk, Except.toBool]
  | ok names => simp [Except.isOk, Except.toBool]

theorem length_le_height
    {tree : FileTree} {location : Location}
    (member : location ∈ tree.locations) :
    location.length ≤ tree.height := by
  rw [height, List.foldl_max]
  have bound :=
    List.le_max?_getD_of_mem (k := 0) (List.mem_map_of_mem (f := List.length) member)
  omega

end FileTree

namespace Walk

/-- A way leads to a file of a walk. -/
structure Yields (tree : FileTree) (scope : Scope) (below : List String) : Prop where
  nonempty : below ≠ []
  proper : ∀ name ∈ below, ProperName name
  lists : ∀ count < below.length, tree.lists (scope.path (below.take count)) = true
  enters : ∀ count, 0 < count → count < below.length →
    isRealDirectory tree (scope.path (below.take count)) = .ok true
  regular : tree.isFile (scope.path below) = .ok true
  kept : ∀ count, 0 < count → count ≤ below.length →
    scope.skips (below.take count) (count < below.length) = false

/-- A way leads to a directory that a walk enters. -/
inductive Entered (tree : FileTree) (scope : Scope) : List String → Prop
  | start : Entered tree scope []
  | step {below : List String} {name : String} :
    Entered tree scope below →
    tree.lists (scope.path below) = true →
    ProperName name →
    enters tree scope (below ++ [name]) = true →
    Entered tree scope (below ++ [name])

section Entries

variable {tree : FileTree} {scope : Scope}

theorem Scope.path_snoc (below : List String) (name : String) :
    scope.path (below ++ [name]) = (scope.path below).child name := by
  rw [Scope.path, Scope.path, Path.descend, Path.child, Path.descend, List.append_assoc]

theorem isRealDirectory_eq_true_iff {path : Path} :
    isRealDirectory tree path = .ok true ↔
      tree.isDirectory path = .ok true ∧ tree.isLink path = .ok false := by
  unfold isRealDirectory
  rcases tree.isDirectory path with failure | ⟨_ | _⟩
  · simp [bind, Except.bind]
  · simp [bind, Except.bind, pure, Except.pure]
  · rcases tree.isLink path with failure | ⟨_ | _⟩
    all_goals simp [bind, Except.bind, pure, Except.pure]

theorem isRealDirectory_of_isFile
    {path : Path}
    (regular : tree.isFile path = .ok true) :
    isRealDirectory tree path = .ok false := by
  obtain ⟨noNull, location, located, isFile⟩ := FileTree.leadsTo_eq_true_iff.mp regular
  have noDirectory : tree.isDirectory path = .ok false := by
    rw [FileTree.isDirectory, FileTree.leadsTo_of_locate noNull located]
    generalize tree.node? location = found at isFile
    rcases found with _ | ⟨_, _⟩ | _ | ⟨_, _⟩
    · rfl
    · rfl
    · cases isFile
    · cases isFile
  rw [isRealDirectory, noDirectory]
  rfl

theorem enters_eq_true_iff {below : List String} :
    enters tree scope below = true ↔
      isRealDirectory tree (scope.path below) = .ok true ∧
        scope.skips below true = false := by
  unfold enters
  rcases isRealDirectory tree (scope.path below) with failure | ⟨_ | _⟩ <;> simp

theorem takes_eq_true_iff {below : List String} :
    takes tree scope below = true ↔
      tree.isFile (scope.path below) = .ok true ∧ scope.skips below false = false := by
  constructor
  · unfold takes
    rcases isRealDirectory tree (scope.path below) with failure | ⟨_ | _⟩
    · simp
    · rcases tree.isFile (scope.path below) with failure | ⟨_ | _⟩ <;> simp
    · simp
  · rintro ⟨regular, kept⟩
    rw [takes, isRealDirectory_of_isFile regular, regular, kept]
    rfl

/-- Where a directory that can be listed has an entry of a proper name, the
listing has the name. -/
theorem mem_children_iff_proper
    (wellFormed : tree.WellFormed)
    {below : List String} {name : String} {reached : Location}
    (found : tree.locate true (scope.path (below ++ [name])) = .ok reached) :
    below ++ [name] ∈ children tree scope below ↔
      tree.lists (scope.path below) = true ∧ ProperName name := by
  rw [Scope.path_snoc] at found
  rw [mem_children_iff, FileTree.lists_iff]
  constructor
  · rintro ⟨names, named, listed, member, same⟩
    obtain rfl := List.singleton_inj.mp (List.append_cancel_left same)
    exact ⟨⟨names, listed⟩,
      (FileTree.mem_list_iff_proper wellFormed listed found).mp member⟩
  · rintro ⟨⟨names, listed⟩, proper⟩
    exact ⟨names, name, listed,
      (FileTree.mem_list_iff_proper wellFormed listed found).mpr proper, rfl⟩

/-- What a walk enters or takes leads somewhere. -/
theorem exists_locate_of_enters
    {below : List String}
    (entered : enters tree scope below = true) :
    ∃ reached, tree.locate true (scope.path below) = .ok reached ∧
      (tree.node? reached).any Node.isDirectory = true := by
  obtain ⟨directory, -⟩ :=
    isRealDirectory_eq_true_iff.mp (enters_eq_true_iff.mp entered).1
  exact (FileTree.leadsTo_eq_true_iff.mp directory).2

theorem exists_locate_of_takes
    {below : List String}
    (taken : takes tree scope below = true) :
    ∃ reached, tree.locate true (scope.path below) = .ok reached := by
  obtain ⟨-, reached, located, -⟩ :=
    FileTree.leadsTo_eq_true_iff.mp (takes_eq_true_iff.mp taken).1
  exact ⟨reached, located⟩

/-- The directories on the level of a depth are those that a way of as many names leads
to. -/
theorem mem_level_iff
    (wellFormed : tree.WellFormed)
    {depth : Nat} {below : List String} :
    below ∈ level tree scope depth ↔
      Entered tree scope below ∧ below.length = depth := by
  induction depth generalizing below with
  | zero =>
      constructor
      · intro member
        obtain rfl := List.mem_singleton.mp member
        exact ⟨Entered.start, rfl⟩
      · rintro ⟨-, length⟩
        exact List.mem_singleton.mpr (List.length_eq_zero_iff.mp length)
  | succ depth inductionHypothesis =>
      rw [level_succ, List.mem_flatMap]
      constructor
      · rintro ⟨parent, above, member⟩
        obtain ⟨entered, length⟩ := inductionHypothesis.mp above
        obtain ⟨isChild, enters⟩ := List.mem_filter.mp member
        obtain ⟨_, name, -, -, rfl⟩ := mem_children_iff.mp isChild
        obtain ⟨_, found, -⟩ := exists_locate_of_enters enters
        obtain ⟨lists, proper⟩ := (mem_children_iff_proper wellFormed found).mp isChild
        exact ⟨entered.step lists proper enters, by simp [length]⟩
      · rintro ⟨entered, length⟩
        cases entered with
        | start => cases length
        | step entered lists proper enters =>
            obtain ⟨_, found, -⟩ := exists_locate_of_enters enters
            refine ⟨_, inductionHypothesis.mpr ⟨entered, by simpa using length⟩, ?_⟩
            exact List.mem_filter.mpr
              ⟨(mem_children_iff_proper wellFormed found).mpr ⟨lists, proper⟩, enters⟩

/-- The place of an entered directory ends in the names that lead to it. -/
theorem Entered.suffix
    {below : List String}
    (entered : Entered tree scope below)
    {reached : Location}
    (located : tree.locate true (scope.path below) = .ok reached) :
    below <:+ reached := by
  induction entered generalizing reached with
  | start => exact List.nil_suffix
  | step _ lists proper enters inductionHypothesis =>
      obtain ⟨names, listed⟩ := FileTree.lists_iff.mp lists
      obtain ⟨location, parentLocated, -⟩ := FileTree.of_list listed
      obtain ⟨front, rfl⟩ := inductionHypothesis parentLocated
      obtain ⟨directory, noLink⟩ :=
        isRealDirectory_eq_true_iff.mp (enters_eq_true_iff.mp enters).1
      rw [Scope.path_snoc] at directory noLink located
      have place := FileTree.locate_child_of_directory parentLocated proper
        directory noLink
      obtain rfl := Except.ok.inj (place.symm.trans located)
      exact ⟨front, (List.append_assoc _ _ _).symm⟩

/-- A walk does not enter more levels than its tree is high. -/
theorem Entered.length_le
    {below : List String}
    (entered : Entered tree scope below) :
    below.length ≤ tree.height := by
  cases entered with
  | start => exact Nat.zero_le _
  | step parent lists proper enters =>
      obtain ⟨reached, located, directory⟩ := exists_locate_of_enters enters
      have suffix := (parent.step lists proper enters).suffix located
      cases found : tree.node? reached with
      | none => simp [found] at directory
      | some node =>
          have nonempty : reached ≠ [] := by
            rintro rfl
            simp at suffix
          have member := FileTree.mem_locations_of_node? nonempty found
          exact suffix.length_le.trans (FileTree.length_le_height member)

theorem entered_snoc_iff {below : List String} {name : String} :
    Entered tree scope (below ++ [name]) ↔
      Entered tree scope below ∧ tree.lists (scope.path below) = true ∧
        ProperName name ∧
        enters tree scope (below ++ [name]) = true := by
  constructor
  · intro entered
    generalize same : below ++ [name] = whole at entered
    cases entered with
    | start => simp at same
    | step entered lists proper enters =>
        obtain ⟨rfl, rest⟩ := List.append_inj' same rfl
        obtain rfl := List.singleton_inj.mp rest
        exact ⟨entered, lists, proper, enters⟩
  · rintro ⟨entered, lists, proper, enters⟩
    exact entered.step lists proper enters

/-- What holds of all beginnings of some names and one more but the whole, holds of
those of the names, and of the names. -/
theorem forall_take_lt_snoc {P : List String → Prop} {below : List String}
    {name : String} :
    (∀ count < (below ++ [name]).length, P ((below ++ [name]).take count)) ↔
      (∀ count < below.length, P (below.take count)) ∧ P below := by
  rw [List.length_append, List.length_singleton]
  constructor
  · intro all
    refine ⟨fun count fewer => ?_, ?_⟩
    · rw [← List.take_append_of_le_length fewer.le]
      exact all count (by omega)
    · rw [← @List.take_left _ below [name]]
      exact all below.length (by omega)
  · rintro ⟨front, whole⟩ count fewer
    rcases Nat.lt_succ_iff_lt_or_eq.mp fewer with shorter | rfl
    · rw [List.take_append_of_le_length shorter.le]
      exact front count shorter
    · rw [List.take_left]
      exact whole

theorem forall_take_le_snoc
    {P : Nat → List String → Prop} {below : List String} {name : String} :
    (∀ count, 0 < count → count ≤ (below ++ [name]).length →
        P count ((below ++ [name]).take count)) ↔
      (∀ count, 0 < count → count ≤ below.length → P count (below.take count)) ∧
        P (below.length + 1) (below ++ [name]) := by
  rw [List.length_append, List.length_singleton]
  have whole : (below ++ [name]).take (below.length + 1) = below ++ [name] :=
    List.take_of_length_le (by simp)
  constructor
  · intro all
    refine ⟨fun count positive atMost => ?_, ?_⟩
    · rw [← List.take_append_of_le_length atMost]
      exact all count positive (by omega)
    · rw [← whole]
      exact all (below.length + 1) (by omega) le_rfl
  · rintro ⟨front, last⟩ count positive atMost
    rcases Nat.le_succ_iff.mp atMost with shorter | rfl
    · rw [List.take_append_of_le_length shorter]
      exact front count positive shorter
    · rw [whole]
      exact last

theorem forall_take_between_snoc {P : List String → Prop} {below : List String}
    {name : String} :
    (∀ count, 0 < count → count < (below ++ [name]).length →
      P ((below ++ [name]).take count)) ↔
      ∀ count, 0 < count → count ≤ below.length → P (below.take count) := by
  rw [List.length_append, List.length_singleton]
  refine forall₂_congr fun count _ => ?_
  rw [Nat.lt_succ_iff]
  refine forall_congr' fun atMost => ?_
  rw [List.take_append_of_le_length atMost]

theorem entered_iff {below : List String} :
    Entered tree scope below ↔
      (∀ name ∈ below, ProperName name) ∧
        (∀ count < below.length, tree.lists (scope.path (below.take count)) = true) ∧
        ∀ count, 0 < count → count ≤ below.length →
          enters tree scope (below.take count) = true := by
  induction below using List.reverseRecOn with
  | nil =>
      refine ⟨fun _ => ⟨by simp, by simp, fun count positive atMost => ?_⟩, fun _ =>
        Entered.start⟩
      exact absurd positive (Nat.not_lt.mpr atMost)
  | append_singleton below name inductionHypothesis =>
      rw [entered_snoc_iff, inductionHypothesis, List.forall_mem_append,
        List.forall_mem_singleton, @forall_take_lt_snoc fun below =>
          tree.lists (scope.path below) = true,
        @forall_take_le_snoc fun _ below => enters tree scope below = true]
      tauto

/-- What leads to an entry is matched as a directory, and the entry itself as a file. -/
theorem forall_kept_snoc_iff {below : List String} {name : String} :
    (∀ count, 0 < count → count ≤ (below ++ [name]).length →
      scope.skips ((below ++ [name]).take count) (count < (below ++ [name]).length) =
        false) ↔
      (∀ count, 0 < count → count ≤ below.length →
        scope.skips (below.take count) true = false) ∧
        scope.skips (below ++ [name]) false = false := by
  have length : (below ++ [name]).length = below.length + 1 := by simp
  rw [@forall_take_le_snoc fun count front =>
    scope.skips front (count < (below ++ [name]).length) = false]
  refine and_congr (forall₃_congr fun count _ atMost => ?_) ?_
  · rw [decide_eq_true (by omega)]
  · rw [decide_eq_false (by omega)]

theorem yields_snoc_iff {below : List String} {name : String} :
    Yields tree scope (below ++ [name]) ↔
      Entered tree scope below ∧ tree.lists (scope.path below) = true ∧
        ProperName name ∧
        takes tree scope (below ++ [name]) = true := by
  rw [entered_iff, takes_eq_true_iff]
  constructor
  · rintro ⟨-, proper, lists, enters, regular, kept⟩
    rw [List.forall_mem_append, List.forall_mem_singleton] at proper
    rw [@forall_take_lt_snoc fun below => tree.lists (scope.path below) = true] at lists
    rw [@forall_take_between_snoc fun below =>
      isRealDirectory tree (scope.path below) = .ok true] at enters
    rw [forall_kept_snoc_iff] at kept
    refine ⟨⟨proper.1, lists.1, ?_⟩, lists.2, proper.2, regular, kept.2⟩
    intro count positive atMost
    exact enters_eq_true_iff.mpr
      ⟨enters count positive atMost, kept.1 count positive atMost⟩
  · rintro ⟨⟨proper, lists, enters⟩, listsParent, properName, regular, kept⟩
    refine ⟨by simp, ?_, ?_, ?_, regular, ?_⟩
    · rw [List.forall_mem_append, List.forall_mem_singleton]
      exact ⟨proper, properName⟩
    · rw [@forall_take_lt_snoc fun below => tree.lists (scope.path below) = true]
      exact ⟨lists, listsParent⟩
    · rw [@forall_take_between_snoc fun below =>
        isRealDirectory tree (scope.path below) = .ok true]
      exact fun count positive atMost =>
        (enters_eq_true_iff.mp (enters count positive atMost)).1
    · rw [forall_kept_snoc_iff]
      exact ⟨fun count positive atMost =>
        (enters_eq_true_iff.mp (enters count positive atMost)).2, kept⟩

/-- The files of a walk are those that a way leads to. -/
theorem mem_filesWithin_iff
    (wellFormed : tree.WellFormed)
    {below : List String} :
    below ∈ filesWithin tree scope (tree.height + 1) ↔ Yields tree scope below := by
  rw [filesWithin, List.mem_flatMap]
  constructor
  · rintro ⟨depth, -, member⟩
    obtain ⟨parent, above, member⟩ := List.mem_flatMap.mp member
    obtain ⟨entered, -⟩ := (mem_level_iff wellFormed).mp above
    obtain ⟨isChild, taken⟩ := List.mem_filter.mp member
    obtain ⟨_, name, -, -, rfl⟩ := mem_children_iff.mp isChild
    obtain ⟨_, found⟩ := exists_locate_of_takes taken
    obtain ⟨lists, proper⟩ := (mem_children_iff_proper wellFormed found).mp isChild
    exact yields_snoc_iff.mpr ⟨entered, lists, proper, taken⟩
  · intro yields
    obtain ⟨parent, name, rfl⟩ : ∃ parent name, below = parent ++ [name] :=
      ⟨_, _, (List.dropLast_append_getLast yields.nonempty).symm⟩
    obtain ⟨entered, lists, proper, taken⟩ := yields_snoc_iff.mp yields
    obtain ⟨_, found⟩ := exists_locate_of_takes taken
    refine ⟨parent.length, List.mem_range.mpr (Nat.lt_succ_of_le entered.length_le), ?_⟩
    refine List.mem_flatMap.mpr
      ⟨parent, (mem_level_iff wellFormed).mpr ⟨entered, rfl⟩, ?_⟩
    exact List.mem_filter.mpr
      ⟨(mem_children_iff_proper wellFormed found).mpr ⟨lists, proper⟩, taken⟩

end Entries

/-- A walk through a directory that holds regular files only comes upon these. -/
theorem findings_of_flat
    {tree : FileTree} {root : Path} {names : List String}
    (listed : tree.list root = .ok names)
    (regular : ∀ name ∈ names, tree.isFile (root.child name) = .ok true) :
    findings tree none none root = names.map fun name => .file (root.child name) := by
  have start : Scope.path ⟨root, none, []⟩ [] = root := by
    rw [Scope.path, Path.descend, List.append_nil]
  have scanned : scan tree ⟨root, none, []⟩ [] = names.map fun name =>
      .file (root.child name) := by
    rw [scan, start, listed]
    dsimp only
    rw [List.map_eq_flatMap]
    refine List.flatMap_congr fun name member => ?_
    have isFile := regular name member
    have entry : Scope.path ⟨root, none, []⟩ ([] ++ [name]) = root.child name := rfl
    rw [inspect, entry, isRealDirectory_of_isFile isFile, isFile]
    rfl
  have noDeeper : deeper tree ⟨root, none, []⟩ [[]] = [] := by
    rw [deeper, List.flatMap_singleton, scanned, List.filterMap_eq_nil_iff,
      List.forall_mem_map]
    exact fun _ _ => rfl
  change levels tree ⟨root, none, []⟩ (tree.height + 1) [[]] = _
  rw [levels_succ, List.flatMap_singleton, scanned, noDeeper, levels_nil,
    List.append_nil]

end Walk
end KernelInventory
