import KernelInventory.FileTree.Lookup
import Mathlib

/-!
# Well-formed trees

A file system holds one entry at a location, and gives no entry a name that says
something else in a path.  The empty tree is well formed, and writing and
removing entries keep a tree so.

In a well-formed tree the names in a directory are proper, and a listing has
each of them once, in order.
-/

namespace KernelInventory

/-- A name that an entry can have: in a path it leads to that entry. -/
def ProperName (name : String) : Prop :=
  name ≠ "" ∧ name ≠ "." ∧ name ≠ ".."

namespace FileTree

/-- Every location holds one entry, and entries have proper names. -/
structure WellFormed (tree : FileTree) : Prop where
  nodup : tree.locations.Nodup
  proper : ∀ location ∈ tree.locations, ∀ name ∈ location, ProperName name

section Growth

variable {tree : FileTree} {location : Location}

theorem lookup_isSome_iff :
    (tree.entries.lookup location).isSome ↔ location ∈ tree.locations := by
  rw [← not_iff_not, Option.not_isSome_iff_eq_none, List.lookup_eq_none_iff]
  constructor
  · intro absent member
    obtain ⟨entry, member, same⟩ := List.mem_map.mp member
    exact bne_iff_ne.mp (absent entry member) same.symm
  · intro absent entry member
    exact bne_iff_ne.mpr fun same =>
      absent (List.mem_map.mpr ⟨entry, member, same.symm⟩)

/-- Putting a node somewhere leaves the locations as they are, or adds one. -/
theorem locations_put (tree : FileTree) (location : Location) (node : Node) :
    (tree.put location node).locations = tree.locations ∨
      location ∉ tree.locations ∧
        (tree.put location node).locations = tree.locations ++ [location] := by
  unfold put
  split
  · exact Or.inl rfl
  · split
    · left
      rw [locations, locations, List.map_map]
      apply List.map_congr_left
      intro entry _
      dsimp only [Function.comp]
      split
      next same => exact same.symm
      · rfl
    next absent =>
      refine Or.inr ⟨fun member => absent (lookup_isSome_iff.mpr member), ?_⟩
      exact List.map_append

namespace WellFormed

theorem put
    (wellFormed : tree.WellFormed)
    (proper : ∀ name ∈ location, ProperName name)
    (node : Node) :
    (tree.put location node).WellFormed := by
  rcases locations_put tree location node with same | ⟨fresh, grown⟩
  · exact ⟨same ▸ wellFormed.nodup, same ▸ wellFormed.proper⟩
  · constructor
    · rw [grown, List.nodup_append]
      refine ⟨wellFormed.nodup, List.nodup_singleton location, ?_⟩
      intro other old place new same
      rw [same, List.mem_singleton.mp new] at old
      exact fresh old
    · intro other member
      rw [grown, List.mem_append, List.mem_singleton] at member
      rcases member with old | rfl
      · exact wellFormed.proper other old
      · exact proper

theorem ensureDirectory
    (wellFormed : tree.WellFormed)
    (proper : ∀ name ∈ location, ProperName name) :
    (tree.ensureDirectory location).WellFormed := by
  unfold FileTree.ensureDirectory
  split
  · exact wellFormed
  · exact wellFormed.put proper _

theorem ensureParents
    (wellFormed : tree.WellFormed)
    (proper : ∀ name ∈ location, ProperName name) :
    (tree.ensureParents location).WellFormed := by
  unfold FileTree.ensureParents
  refine List.foldlRecOn _ _ wellFormed ?_
  intro grown inductionHypothesis count _
  exact inductionHypothesis.ensureDirectory fun name member =>
    proper name (List.mem_of_mem_take member)

/-- Writing an entry at proper names keeps a tree well formed. -/
theorem write
    (wellFormed : tree.WellFormed)
    (proper : ∀ name ∈ location, ProperName name)
    (node : Node) :
    (tree.write location node).WellFormed :=
  (wellFormed.ensureParents proper).put proper node

/-- Removing entries keeps a tree well formed. -/
theorem remove (wellFormed : tree.WellFormed) (location : Location) :
    (tree.remove location).WellFormed := by
  have fewer : (tree.remove location).locations.Sublist tree.locations :=
    List.filter_sublist.map _
  exact ⟨wellFormed.nodup.sublist fewer, fun other member =>
    wellFormed.proper other (fewer.subset member)⟩

/-- The tree that holds nothing but its working directory is well formed. -/
theorem empty (proper : ∀ name ∈ location, ProperName name) :
    (FileTree.empty location).WellFormed := by
  have bare : WellFormed ⟨location, []⟩ :=
    ⟨List.nodup_nil, fun other member => absurd member List.not_mem_nil⟩
  exact bare.write proper _

end WellFormed
end Growth

section Listings

variable {tree : FileTree} {location : Location} {name : String}

theorem mem_namesAt_iff :
    name ∈ tree.namesAt location ↔ location ++ [name] ∈ tree.locations := by
  rw [namesAt, locations, List.mem_filterMap, List.mem_map]
  constructor
  · rintro ⟨entry, member, found⟩
    split at found
    next parent =>
      refine ⟨entry, member, ?_⟩
      rw [← parent]
      exact (List.dropLast_append_getLast? name found).symm
    · cases found
  · rintro ⟨entry, member, place⟩
    refine ⟨entry, member, ?_⟩
    rw [place, List.dropLast_concat, if_pos rfl, List.getLast?_concat]

theorem WellFormed.nodup_namesAt (wellFormed : tree.WellFormed) (location : Location) :
    (tree.namesAt location).Nodup := by
  have named : tree.namesAt location =
      tree.locations.filterMap fun place =>
        if place.dropLast = location then place.getLast? else none := by
    rw [namesAt, locations, List.filterMap_map]
    rfl
  rw [named]
  refine List.Nodup.filterMap ?_ wellFormed.nodup
  intro left right name leftNamed rightNamed
  simp only [Option.mem_def, Option.ite_none_right_eq_some] at leftNamed rightNamed
  rw [← List.dropLast_append_getLast? name leftNamed.2,
    ← List.dropLast_append_getLast? name rightNamed.2, leftNamed.1, rightNamed.1]

/-- What is listed are the names in a directory that may be listed, in order. -/
theorem listAt_eq_ok_iff {names : List String} :
    tree.listAt location = .ok names ↔
      (∃ searchable, tree.node? location = some (.directory true searchable)) ∧
        (tree.namesAt location).mergeSort (· ≤ ·) = names := by
  rw [listAt]
  cases here : tree.node? location with
  | none => simp
  | some node =>
      cases node with
      | file | link => simp
      | directory listable searchable => cases listable <;> simp

/-- A listing has the proper names of a directory, each once, in order. -/
theorem WellFormed.of_listAt
    (wellFormed : tree.WellFormed)
    {names : List String}
    (listed : tree.listAt location = .ok names) :
    names.Pairwise (· < ·) ∧
      (∀ name, name ∈ names ↔ location ++ [name] ∈ tree.locations) ∧
      ∀ name ∈ names, ProperName name := by
  obtain ⟨-, rfl⟩ := listAt_eq_ok_iff.mp listed
  have member : ∀ name, name ∈ (tree.namesAt location).mergeSort (· ≤ ·) ↔
      location ++ [name] ∈ tree.locations := by
    intro name
    rw [List.mem_mergeSort, mem_namesAt_iff]
  refine ⟨?_, member, ?_⟩
  · have sorted := List.pairwise_mergeSort' (· ≤ ·) (tree.namesAt location)
    have distinct : ((tree.namesAt location).mergeSort (· ≤ ·)).Nodup :=
      List.nodup_mergeSort.mpr (wellFormed.nodup_namesAt location)
    exact (sorted.and distinct).imp fun ⟨atMost, different⟩ =>
      lt_of_le_of_ne atMost different
  · intro name found
    exact wellFormed.proper _ ((member name).mp found) name (by simp)

end Listings
end FileTree
end KernelInventory
