import KernelInventory.Proofs.FileTree.Separator
import Mathlib.Data.List.Infix
import Mathlib.Logic.Function.Basic

/-!
# Exchanging two places of a tree

Two places of a file tree can be exchanged, each with everything below it.  Where
nothing stands at one of them, this moves what stands at the other.  Every entry is
found again at its new location, and only the names in front of the two places change.
-/

namespace KernelInventory

namespace Location

/-- Neither of two places lies below the other, and they differ. -/
structure Apart (one other : Location) : Prop where
  left : ¬ one <+: other
  right : ¬ other <+: one

/-- Where a location comes to when two places are exchanged. -/
def exchange (one other location : Location) : Location :=
  if one <+: location then other ++ location.drop one.length
  else if other <+: location then one ++ location.drop other.length
  else location

variable {one other : Location}

theorem exchange_left (one other below : Location) :
    exchange one other (one ++ below) = other ++ below := by
  rw [exchange, if_pos (List.prefix_append one below), List.drop_left]

theorem exchange_right (apart : Apart one other) (below : Location) :
    exchange one other (other ++ below) = one ++ below := by
  have outside : ¬ one <+: other ++ below := by
    intro inside
    rcases List.prefix_or_prefix_of_prefix inside (List.prefix_append other below) with
      left | right
    · exact apart.left left
    · exact apart.right right
  rw [exchange, if_neg outside, if_pos (List.prefix_append other below), List.drop_left]

/-- A location lies below one of the places, or stays. -/
theorem exchange_cases (apart : Apart one other) (location : Location) :
    (∃ below, location = one ++ below ∧ exchange one other location = other ++ below) ∨
      (∃ below, location = other ++ below ∧ exchange one other location =
        one ++ below) ∨
      exchange one other location = location := by
  by_cases left : one <+: location
  · obtain ⟨below, rfl⟩ := left
    exact Or.inl ⟨below, rfl, exchange_left one other below⟩
  · by_cases right : other <+: location
    · obtain ⟨below, rfl⟩ := right
      exact Or.inr (Or.inl ⟨below, rfl, exchange_right apart below⟩)
    · exact Or.inr (Or.inr (by rw [exchange, if_neg left, if_neg right]))

theorem exchange_involutive (apart : Apart one other) :
    Function.Involutive (exchange one other) := by
  intro location
  rcases exchange_cases apart location with ⟨below, rfl, exchanged⟩ |
    ⟨below, rfl, exchanged⟩ |
    stays
  · rw [exchanged, exchange_right apart]
  · rw [exchanged, exchange_left]
  · rw [stays, stays]

theorem exchange_nil (apart : Apart one other) : exchange one other [] = [] := by
  rcases exchange_cases apart [] with ⟨below, empty, -⟩ | ⟨below, empty, -⟩ | stays
  · obtain rfl := (List.append_eq_nil_iff.mp empty.symm).1
    exact absurd (List.nil_prefix) apart.left
  · obtain rfl := (List.append_eq_nil_iff.mp empty.symm).1
    exact absurd (List.nil_prefix) apart.right
  · exact stays

/-- Below a place whose names are different ones, the directories of a name on the way
stand below the place. -/
theorem mem_dropLast_append_iff {name : String} (outside : name ∉ one)
    (below : Location) :
    name ∈ (one ++ below).dropLast ↔ name ∈ below.dropLast := by
  cases below using List.reverseRecOn with
  | nil =>
      rw [List.append_nil]
      exact iff_of_false (fun member => outside (List.mem_of_mem_dropLast member))
        List.not_mem_nil
  | append_singleton below last =>
      rw [← List.append_assoc, List.dropLast_concat, List.dropLast_concat,
        List.mem_append]
      exact or_iff_right outside

/-- A name that is in neither place is that of a directory on the way behind an exchange
exactly if it was before. -/
theorem mem_dropLast_exchange_iff
    {name : String}
    (apart : Apart one other)
    (outsideOne : name ∉ one)
    (outsideOther : name ∉ other)
    (location : Location) :
    name ∈ (exchange one other location).dropLast ↔ name ∈ location.dropLast := by
  rcases exchange_cases apart location with ⟨below, rfl, exchanged⟩ |
    ⟨below, rfl, exchanged⟩ |
    stays
  · rw [exchanged, mem_dropLast_append_iff outsideOther,
      mem_dropLast_append_iff outsideOne]
  · rw [exchanged, mem_dropLast_append_iff outsideOther,
      mem_dropLast_append_iff outsideOne]
  · rw [stays]

theorem unslashed_exchange
    (apart : Apart one other)
    (unslashedOne : Unslashed one)
    (unslashedOther : Unslashed other)
    {location : Location}
    (unslashed : Unslashed location) :
    Unslashed (exchange one other location) := by
  rcases exchange_cases apart location with ⟨below, rfl, exchanged⟩ |
    ⟨below, rfl, exchanged⟩ |
    stays
  · rw [exchanged]
    exact unslashedOther.append (unslashed.subset (List.subset_append_right _ _))
  · rw [exchanged]
    exact unslashedOne.append (unslashed.subset (List.subset_append_right _ _))
  · rwa [stays]

end Location

namespace FileTree

/-- The tree in which two places are exchanged; the working directory goes with its
place. -/
def exchange (tree : FileTree) (one other : Location) : FileTree where
  workingDirectory := Location.exchange one other tree.workingDirectory
  entries := tree.entries.map fun entry =>
    (Location.exchange one other entry.1, entry.2)

/-- What stands at a location is found again if all locations go elsewhere, no
two to the same place. -/
theorem lookup_map_of_injective
    {move : Location → Location}
    (injective : Function.Injective move)
    (entries : List (Location × Node))
    (location : Location) :
    (entries.map fun entry => (move entry.1, entry.2)).lookup (move location) =
      entries.lookup location := by
  induction entries with
  | nil => rfl
  | cons entry rest inductionHypothesis =>
      have same : (move location == move entry.1) = (location == entry.1) := by
        rw [Bool.eq_iff_iff, beq_iff_eq, beq_iff_eq, injective.eq_iff]
      rw [List.map_cons, List.lookup_cons, List.lookup_cons, inductionHypothesis, same]

variable {tree : FileTree} {one other : Location}

theorem node?_exchange (apart : Location.Apart one other) (location : Location) :
    (tree.exchange one other).node? (Location.exchange one other location) =
      tree.node? location := by
  have injective := (Location.exchange_involutive apart).injective
  have root : Location.exchange one other location = [] ↔ location = [] :=
    injective.eq_iff' (Location.exchange_nil apart)
  simp only [node?, root]
  split
  · rfl
  · exact lookup_map_of_injective injective tree.entries location

/-- A path leads to where the place has moved that another path leads to, and nowhere
else; and the place is found by its own path in both trees or in neither. -/
structure LeadsAlike (move : Location → Location) (tree other : FileTree)
    (path spelled : Path) :
    Prop where
  leads : ∀ moved, other.realLocation spelled = .ok moved ↔
    ∃ location, tree.realLocation path = .ok location ∧ move location = moved
  found : ∀ location, tree.realLocation path = .ok location →
    ((∃ place, other.locate true (move location).path = .ok place) ↔
      ∃ place, tree.locate true location.path = .ok place)

/-- The files of a tree are found again in another one, no two at the same place. -/
structure FilesMove (move : Location → Location) (tree other : FileTree) : Prop where
  injective : Function.Injective move
  readAt : ∀ location, other.readAt (move location) = tree.readAt location

/-- A file that is found by its own path where it has moved is opened there as
before. -/
theorem LeadsAlike.openAt_eq_ok_iff
    {move : Location → Location} {tree other : FileTree} {path spelled : Path}
    (alike : LeadsAlike move tree other path spelled)
    (files : FilesMove move tree other)
    {location : Location}
    (canonical : tree.realLocation path = .ok location)
    (bytes : List UInt8) :
    other.openAt (move location) = .ok bytes ↔ tree.openAt location = .ok bytes := by
  rw [FileTree.openAt_eq_ok_iff, FileTree.openAt_eq_ok_iff, files.readAt,
    alike.found location canonical]

theorem filesMove_exchange (tree : FileTree) (apart : Location.Apart one other) :
    FilesMove (Location.exchange one other) tree (tree.exchange one other) where
  injective := (Location.exchange_involutive apart).injective
  readAt location := by
    rw [FileTree.readAt, FileTree.readAt, node?_exchange apart]

end FileTree
end KernelInventory
