import KernelInventory.Proofs.FileTree.Descent
import KernelInventory.Walk

/-!
# The levels of a walk

A walk goes through the directories of one depth after those of the depth before.  A
level is made from the one above it: by the entries of each of its directories that
are to be entered.  So the entries of a level stand in the order of the names that
lead to them, and all files of a walk stand in the order of their depths, and of
these names at one depth.
-/

namespace KernelInventory
namespace Walk

section Levels

variable (tree : FileTree) (scope : Scope)

/-- The directories to be entered from those of one depth. -/
def deeper (directories : List (List String)) : List (List String) :=
  (directories.flatMap (scan tree scope)).filterMap Finding.directory?

/-- The directories that a walk enters at a depth. -/
def level (depth : Nat) : List (List String) :=
  (deeper tree scope)^[depth] [[]]

theorem levels_nil (count : Nat) : levels tree scope count [] = [] := by
  cases count <;> rfl

theorem levels_succ (count : Nat) (directories : List (List String)) :
    levels tree scope (count + 1) directories =
      directories.flatMap (scan tree scope) ++
        levels tree scope count (deeper tree scope directories) := by
  rw [levels, deeper]
  split
  next none =>
    rw [none, levels_nil, List.append_nil]
  · rfl

/-- A walk scans the directories of each depth, one depth after the other. -/
theorem levels_eq (count : Nat) (directories : List (List String)) :
    levels tree scope count directories =
      (List.range count).flatMap fun depth =>
        ((deeper tree scope)^[depth] directories).flatMap (scan tree scope) := by
  induction count generalizing directories with
  | zero => rfl
  | succ count inductionHypothesis =>
      rw [levels_succ, inductionHypothesis, List.range_succ_eq_map, List.flatMap_cons,
        List.flatMap_map]
      rfl

/-- What the names in a directory lead to. -/
def children (below : List String) : List (List String) :=
  match tree.list (scope.path below) with
  | .ok names => names.map fun name => below ++ [name]
  | .error _ => []

/-- Whether an entry is a directory to be entered. -/
def enters (below : List String) : Bool :=
  match isRealDirectory tree (scope.path below) with
  | .ok directory => directory && !scope.skips below true
  | .error _ => false

/-- Whether an entry is a file of the walk. -/
def takes (below : List String) : Bool :=
  match isRealDirectory tree (scope.path below), tree.isFile (scope.path below) with
  | .ok false, .ok regular => regular && !scope.skips below false
  | _, _ => false

/-- A selection of findings that finds one thing in some entries, and nothing in others,
finds in a directory the things in its entries. -/
theorem filterMap_scan
    {α : Type} {select : Finding → Option α} {keep : List String → Bool}
    {give : List String → α}
    (passesUnreadable : ∀ path failure, select (.unreadable path failure) = none)
    (passesFault : ∀ failure, select (.fault failure) = none)
    (each : ∀ below,
      (inspect tree scope below).filterMap select = if keep below then [give below]
      else [])
    (below : List String) :
    (scan tree scope below).filterMap select =
      ((children tree scope below).filter keep).map give := by
  rw [scan, children]
  split
  next refused =>
    rw [refused]
    simp [passesUnreadable]
  next failed =>
    rw [failed]
    simp [passesFault]
  next names listed =>
    rw [listed]
    dsimp only
    clear listed
    induction names with
    | nil => rfl
    | cons name rest inductionHypothesis =>
        rw [List.flatMap_cons, List.filterMap_append, inductionHypothesis, each,
          List.map_cons, List.filter_cons]
        split <;> rfl

theorem filterMap_directory?_scan (below : List String) :
    (scan tree scope below).filterMap Finding.directory? =
      (children tree scope below).filter (enters tree scope) := by
  have each : ∀ below, (inspect tree scope below).filterMap Finding.directory? =
      if enters tree scope below then [id below] else [] := by
    intro below
    rw [inspect, enters]
    cases isRealDirectory tree (scope.path below) with
    | error failure => rfl
    | ok directory =>
        cases directory with
        | true => cases skipped : scope.skips below true <;>
            simp [skipped, Finding.directory?]
        | false =>
            cases skipped : scope.skips below false with
            | true => simp [skipped]
            | false =>
                cases tree.isFile (scope.path below) <;>
                  simp [skipped, Finding.directory?]
  rw [filterMap_scan tree scope (fun _ _ => rfl) (fun _ => rfl) each, List.map_id]

theorem filterMap_file?_scan (below : List String) :
    (scan tree scope below).filterMap Finding.file? =
      ((children tree scope below).filter (takes tree scope)).map scope.path := by
  have each : ∀ below, (inspect tree scope below).filterMap Finding.file? =
      if takes tree scope below then [scope.path below] else [] := by
    intro below
    rw [inspect, takes]
    cases isRealDirectory tree (scope.path below) with
    | error failure => rfl
    | ok directory =>
        cases directory with
        | true => cases skipped : scope.skips below true <;>
            simp [skipped, Finding.file?]
        | false =>
            cases skipped : scope.skips below false with
            | true =>
                rcases tree.isFile (scope.path below) with failure | ⟨_ | _⟩
                all_goals simp [skipped]
            | false =>
                rcases tree.isFile (scope.path below) with failure | ⟨_ | _⟩
                all_goals simp [skipped, Finding.file?]
  exact filterMap_scan tree scope (fun _ _ => rfl) (fun _ => rfl) each below

/-- A level is made from the entries of the directories on the level above. -/
theorem level_succ (depth : Nat) :
    level tree scope (depth + 1) =
      (level tree scope depth).flatMap fun below =>
        (children tree scope below).filter (enters tree scope) := by
  rw [level, Function.iterate_succ_apply', ← level, deeper, List.filterMap_flatMap]
  exact List.flatMap_congr fun below _ => filterMap_directory?_scan tree scope below

/-- The files of a walk in the directories of one depth. -/
def filesAt (depth : Nat) : List (List String) :=
  (level tree scope depth).flatMap fun below =>
    (children tree scope below).filter (takes tree scope)

/-- The files of a walk in the directories of as many depths as are gone through. -/
def filesWithin (count : Nat) : List (List String) :=
  (List.range count).flatMap (filesAt tree scope)

theorem filterMap_file?_levels (count : Nat) :
    (levels tree scope count [[]]).filterMap Finding.file? =
      (filesWithin tree scope count).map scope.path := by
  rw [levels_eq, List.filterMap_flatMap, filesWithin, List.map_flatMap]
  apply List.flatMap_congr
  intro depth _
  rw [← level, List.filterMap_flatMap, filesAt, List.map_flatMap]
  exact List.flatMap_congr fun below _ => filterMap_file?_scan tree scope below

end Levels

/-! ## The order of a walk -/

/-- The order of a walk: by the number of names, and then by the names. -/
def Before (left right : List String) : Prop :=
  left.length < right.length ∨ left.length = right.length ∧ left < right

theorem Before.asymm
    {left right : List String}
    (before : Before left right) :
    ¬ Before right left := by
  rintro (longer | ⟨sameLength, later⟩)
  · rcases before with shorter | ⟨_, _⟩
    · omega
    · omega
  · rcases before with shorter | ⟨_, earlier⟩
    · omega
    · exact lt_asymm earlier later

instance : Std.Asymm Before :=
  ⟨fun _ _ => Before.asymm⟩

/-- Entries of one depth, in order. -/
structure Ranked (depth : Nat) (belows : List (List String)) : Prop where
  depth : ∀ below ∈ belows, below.length = depth
  sorted : belows.Pairwise (· < ·)

/-- Of names that lead equally far, further names do not change the order. -/
theorem append_lt_append
    {left right : List String}
    (sameLength : left.length = right.length)
    (earlier : left < right)
    (behindLeft behindRight : List String) :
    left ++ behindLeft < right ++ behindRight := by
  induction earlier with
  | nil => cases sameLength
  | rel smaller => exact List.Lex.rel smaller
  | cons _ inductionHypothesis =>
      exact List.Lex.cons (inductionHypothesis (Nat.succ.inj sameLength))

section Order

variable {tree : FileTree} {scope : Scope}

theorem mem_children_iff {below child : List String} :
    child ∈ children tree scope below ↔
      ∃ names name,
        tree.list (scope.path below) = .ok names ∧ name ∈ names ∧
          child = below ++ [name] := by
  unfold children
  cases tree.list (scope.path below) with
  | error failure => simp
  | ok names =>
      rw [List.mem_map]
      constructor
      · rintro ⟨name, member, rfl⟩
        exact ⟨names, name, rfl, member, rfl⟩
      · rintro ⟨_, name, same, member, rfl⟩
        exact ⟨name, Except.ok.inj same ▸ member, rfl⟩

theorem ranked_children (wellFormed : tree.WellFormed) (below : List String) :
    Ranked (below.length + 1) (children tree scope below) := by
  unfold children
  split
  next names listed =>
    obtain ⟨location, -, listedAt⟩ := FileTree.of_list listed
    obtain ⟨sorted, -, -⟩ := wellFormed.of_listAt listedAt
    constructor
    · intro child member
      obtain ⟨name, -, rfl⟩ := List.mem_map.mp member
      exact List.length_append
    · rw [List.pairwise_map]
      exact sorted.imp fun smaller => List.append_left_lt (List.Lex.rel smaller)
  · exact ⟨fun _ member => absurd member List.not_mem_nil, List.Pairwise.nil⟩

theorem Ranked.flatMap_children
    {depth : Nat} {belows : List (List String)}
    (ranked : Ranked depth belows)
    (wellFormed : tree.WellFormed)
    (keep : List String → Bool) :
    Ranked (depth + 1) (belows.flatMap fun below =>
      (children tree scope below).filter keep) := by
  constructor
  · intro child member
    obtain ⟨below, above, member⟩ := List.mem_flatMap.mp member
    rw [(ranked_children wellFormed below).depth child (List.mem_filter.mp member).1,
      ranked.depth below above]
  · rw [List.pairwise_flatMap]
    constructor
    · intro below _
      exact (ranked_children wellFormed below).sorted.filter keep
    · refine ranked.sorted.imp_of_mem ?_
      intro left right onLeft onRight earlier child inLeft other inRight
      obtain ⟨_, _, -, -, rfl⟩ := mem_children_iff.mp (List.mem_filter.mp inLeft).1
      obtain ⟨_, _, -, -, rfl⟩ := mem_children_iff.mp (List.mem_filter.mp inRight).1
      have sameLength :=
        (ranked.depth left onLeft).trans (ranked.depth right onRight).symm
      exact append_lt_append sameLength earlier _ _

theorem ranked_level (wellFormed : tree.WellFormed) (depth : Nat) :
    Ranked depth (level tree scope depth) := by
  induction depth with
  | zero =>
      exact ⟨fun _ member => List.mem_singleton.mp member ▸ rfl,
        List.pairwise_singleton _ _⟩
  | succ depth inductionHypothesis =>
      rw [level_succ]
      exact inductionHypothesis.flatMap_children wellFormed _

theorem ranked_filesAt (wellFormed : tree.WellFormed) (depth : Nat) :
    Ranked (depth + 1) (filesAt tree scope depth) :=
  (ranked_level wellFormed depth).flatMap_children wellFormed _

/-- The files of a walk stand in its order. -/
theorem pairwise_before_filesWithin (wellFormed : tree.WellFormed) (count : Nat) :
    (filesWithin tree scope count).Pairwise Before := by
  rw [filesWithin, List.pairwise_flatMap]
  constructor
  · intro depth _
    have ranked := @ranked_filesAt tree scope wellFormed depth
    refine ranked.sorted.imp_of_mem ?_
    intro left right onLeft onRight earlier
    exact Or.inr ⟨(ranked.depth left onLeft).trans (ranked.depth right onRight).symm,
      earlier⟩
  · refine List.pairwise_lt_range.imp ?_
    intro depth deeperDepth deeper left onLeft right onRight
    have lengthLeft := (ranked_filesAt wellFormed depth).depth left onLeft
    have lengthRight := (ranked_filesAt wellFormed deeperDepth).depth right onRight
    left
    omega

end Order
end Walk
end KernelInventory
