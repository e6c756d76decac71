import KernelInventory.Proofs.FileTree.Straight
import KernelInventory.Proofs.Walk.Completeness

/-!
# Walks of subdirectories

A walk goes level by level, so that the files of the subdirectories of its start come
mixed.  Apart from their order, they are the files right below the start and those that
walks of the subdirectories find: a way goes through one of the subdirectories, and what
is matched against the patterns on it is the same from wherever the walk starts.
-/

namespace KernelInventory
namespace Walk

/-- What a walk from an entry below the start is about. -/
def Scope.down (scope : Scope) (name : String) : Scope :=
  ⟨scope.root.child name, scope.exclusion, scope.lead ++ [name]⟩

section Ways

variable {tree : FileTree} {scope : Scope} {name : String} {below : List String}

theorem Scope.path_down (below : List String) :
    (scope.down name).path below = scope.path (name :: below) := by
  rw [Scope.path, Scope.path, Scope.down, Path.descend, Path.child, Path.descend,
    List.append_assoc]
  rfl

theorem Scope.skips_down (below : List String) (directory : Bool) :
    (scope.down name).skips below directory = scope.skips (name :: below)
      directory := by
  rw [Scope.skips, Scope.skips, Scope.down, List.append_assoc]
  rfl

theorem enters_down (below : List String) :
    enters tree (scope.down name) below = enters tree scope (name :: below) := by
  rw [enters, enters, Scope.path_down, Scope.skips_down]

theorem takes_down (below : List String) :
    takes tree (scope.down name) below = takes tree scope (name :: below) := by
  rw [takes, takes, Scope.path_down, Scope.skips_down]

/-- A way to a directory goes into the entry of its first name, and on from there. -/
theorem entered_cons_iff :
    Entered tree scope (name :: below) ↔
      tree.lists (scope.path []) = true ∧ ProperName name ∧
        enters tree scope [name] = true ∧
        Entered tree (scope.down name) below := by
  induction below using List.reverseRecOn with
  | nil =>
      have asSnoc := @entered_snoc_iff tree scope [] name
      rw [and_iff_right Entered.start] at asSnoc
      rw [and_iff_left Entered.start]
      exact asSnoc
  | append_singleton below last inductionHypothesis =>
      rw [← List.cons_append, entered_snoc_iff, inductionHypothesis, entered_snoc_iff,
        Scope.path_down, enters_down, List.cons_append]
      simp only [and_assoc]

/-- A way of more than one name goes into the entry of the first one, and on from
there. -/
theorem yields_cons_iff (nonempty : below ≠ []) :
    Yields tree scope (name :: below) ↔
      tree.lists (scope.path []) = true ∧ ProperName name ∧
        enters tree scope [name] = true ∧
        Yields tree (scope.down name) below := by
  obtain ⟨front, last, rfl⟩ := (List.eq_nil_or_concat below).resolve_left nonempty
  rw [List.concat_eq_append, ← List.cons_append, yields_snoc_iff, entered_cons_iff,
    yields_snoc_iff, Scope.path_down, takes_down, List.cons_append]
  simp only [and_assoc]

end Ways

/-! ## Ways by their first names -/

section Split

variable {here deeper : List String} {within : String → List (List String)}
  (nonempty : ∀ name, ∀ below ∈ within name, below ≠ [])

/-- The ways of one name, and those of more names by the first of them. -/
def waysOf (here deeper : List String) (within : String → List (List String)) :
    List (List String) :=
  here.map ([·]) ++ deeper.flatMap fun name => (within name).map (name :: ·)

include nonempty

theorem singleton_mem_waysOf_iff {name : String} :
    [name] ∈ waysOf here deeper within ↔ name ∈ here := by
  rw [waysOf, List.mem_append, List.mem_map, List.mem_flatMap]
  constructor
  · rintro (⟨other, member, same⟩ | ⟨other, _, member⟩)
    · exact List.singleton_inj.mp same ▸ member
    · obtain ⟨below, found, same⟩ := List.mem_map.mp member
      exact absurd (List.cons.inj same).2 (nonempty other below found)
  · exact fun member => .inl ⟨name, member, rfl⟩

theorem nodup_waysOf
    (distinctHere : here.Nodup)
    (distinctDeeper : deeper.Nodup)
    (distinct : ∀ name, (within name).Nodup) :
    (waysOf here deeper within).Nodup := by
  refine List.nodup_append.mpr ⟨?_, List.nodup_flatMap.mpr ⟨?_, ?_⟩, ?_⟩
  · exact distinctHere.map fun _ _ => List.singleton_inj.mp
  · exact fun name _ => (distinct name).map List.cons_injective
  · refine distinctDeeper.imp fun different below left right => ?_
    obtain ⟨_, -, rfl⟩ := List.mem_map.mp left
    obtain ⟨_, -, same⟩ := List.mem_map.mp right
    exact different (List.cons.inj same).1.symm
  · rintro _ first _ later rfl
    obtain ⟨name, -, rfl⟩ := List.mem_map.mp first
    obtain ⟨other, -, member⟩ := List.mem_flatMap.mp later
    obtain ⟨below, found, same⟩ := List.mem_map.mp member
    exact nonempty other below found (List.cons.inj same).2

omit nonempty

theorem cons_mem_waysOf_iff
    {name : String} {below : List String}
    (more : below ≠ []) :
    name :: below ∈ waysOf here deeper within ↔
      name ∈ deeper ∧ below ∈ within name := by
  rw [waysOf, List.mem_append, List.mem_map, List.mem_flatMap]
  constructor
  · rintro (⟨other, _, same⟩ | ⟨other, member, inside⟩)
    · exact absurd (List.cons.inj same).2.symm more
    · obtain ⟨_, found, same⟩ := List.mem_map.mp inside
      obtain ⟨rfl, rfl⟩ := List.cons.inj same
      exact ⟨member, found⟩
  · exact fun ⟨member, found⟩ => .inr ⟨name, member, List.mem_map_of_mem found⟩

theorem nil_not_mem_waysOf : [] ∉ waysOf here deeper within := by
  simp [waysOf]

end Split

section Files

variable {tree : FileTree} {scope : Scope} {names : List String}

/-- The files right below the start of a walk. -/
def filesHere (tree : FileTree) (scope : Scope) (names : List String) : List String :=
  names.filter fun name => takes tree scope [name]

/-- The subdirectories right below the start that a walk enters. -/
def subdirectories (tree : FileTree) (scope : Scope) (names : List String) :
    List String :=
  names.filter fun name => enters tree scope [name]

theorem ne_nil_of_mem_filesWithin
    (wellFormed : tree.WellFormed)
    {below : List String}
    (member : below ∈ filesWithin tree scope (tree.height + 1)) :
    below ≠ [] :=
  ((mem_filesWithin_iff wellFormed).mp member).nonempty

theorem nodup_filesWithin (wellFormed : tree.WellFormed) :
    (filesWithin tree scope (tree.height + 1)).Nodup :=
  (pairwise_before_filesWithin wellFormed _).nodup

/-- Of the entries that a walk enters or takes, the listing has those of proper
names. -/
theorem mem_names_iff_proper
    (wellFormed : tree.WellFormed)
    (listed : tree.list (scope.path []) = .ok names)
    {name : String} {reached : Location}
    (found : tree.locate true (scope.path [name]) = .ok reached) :
    name ∈ names ↔ ProperName name := by
  have lists := FileTree.lists_iff.mpr ⟨names, listed⟩
  have asChild := @mem_children_iff_proper tree scope wellFormed [] name reached found
  rw [mem_children_iff, and_iff_right lists] at asChild
  rw [← asChild]
  constructor
  · exact fun member => ⟨names, name, listed, member, rfl⟩
  · rintro ⟨_, _, same, member, alike⟩
    obtain rfl := List.singleton_inj.mp alike
    exact Except.ok.inj (listed.symm.trans same) ▸ member

theorem mem_filesWithin_singleton_iff
    (wellFormed : tree.WellFormed)
    (listed : tree.list (scope.path []) = .ok names)
    {name : String} :
    [name] ∈ filesWithin tree scope (tree.height + 1) ↔
      name ∈ filesHere tree scope names := by
  have lists := FileTree.lists_iff.mpr ⟨names, listed⟩
  have asSnoc := @yields_snoc_iff tree scope [] name
  rw [and_iff_right Entered.start, and_iff_right lists] at asSnoc
  rw [mem_filesWithin_iff wellFormed, filesHere, List.mem_filter]
  refine asSnoc.trans (and_congr_left fun taken => ?_)
  obtain ⟨reached, found⟩ := exists_locate_of_takes taken
  exact (mem_names_iff_proper wellFormed listed found).symm

theorem mem_filesWithin_cons_iff
    (wellFormed : tree.WellFormed)
    (listed : tree.list (scope.path []) = .ok names)
    {name : String} {below : List String}
    (nonempty : below ≠ []) :
    name :: below ∈ filesWithin tree scope (tree.height + 1) ↔
      name ∈ subdirectories tree scope names ∧
        below ∈ filesWithin tree (scope.down name) (tree.height + 1) := by
  have lists := FileTree.lists_iff.mpr ⟨names, listed⟩
  rw [mem_filesWithin_iff wellFormed, mem_filesWithin_iff wellFormed,
    yields_cons_iff nonempty, and_iff_right lists, subdirectories, List.mem_filter,
    and_assoc]
  refine and_congr_left fun ⟨entered, _⟩ => ?_
  obtain ⟨reached, found, -⟩ := exists_locate_of_enters entered
  exact (mem_names_iff_proper wellFormed listed found).symm

/-- The files of a walk are those right below its start and those that walks of the
subdirectories find, each once. -/
theorem perm_filesWithin
    (wellFormed : tree.WellFormed)
    (listed : tree.list (scope.path []) = .ok names) :
    (filesWithin tree scope (tree.height + 1)).Perm
      (waysOf (filesHere tree scope names) (subdirectories tree scope names) fun name =>
        filesWithin tree (scope.down name) (tree.height + 1)) := by
  obtain ⟨location, -, listedAt⟩ := FileTree.of_list listed
  obtain ⟨sorted, -, -⟩ := wellFormed.of_listAt listedAt
  have distinct : names.Nodup := sorted.imp ne_of_lt
  have nonempty := fun name below =>
    @ne_nil_of_mem_filesWithin tree (scope.down name) wellFormed below
  have distinctWays :=
    nodup_waysOf nonempty (distinct.filter fun name => takes tree scope [name])
      (distinct.filter fun name => enters tree scope [name]) fun _ =>
        nodup_filesWithin wellFormed
  refine (List.perm_ext_iff_of_nodup (nodup_filesWithin wellFormed) distinctWays).mpr ?_
  rintro (_ | ⟨name, _ | ⟨next, rest⟩⟩)
  · exact iff_of_false (fun member => ne_nil_of_mem_filesWithin wellFormed member rfl)
      nil_not_mem_waysOf
  · rw [mem_filesWithin_singleton_iff wellFormed listed,
      singleton_mem_waysOf_iff nonempty]
    rfl
  · have more := List.cons_ne_nil next rest
    rw [mem_filesWithin_cons_iff wellFormed listed more, cons_mem_waysOf_iff more]
    rfl

end Files
end Walk
end KernelInventory
