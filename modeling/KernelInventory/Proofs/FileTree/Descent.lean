import KernelInventory.Proofs.FileTree.AtPath
import KernelInventory.Proofs.FileTree.Steps

/-!
# Descending into a directory

A path that leads to a place leads, with further names behind it, wherever these lead
from that place.  So the entries of a directory that can be listed are those that its
proper names lead to, whatever links stand on the way to the directory.
-/

namespace KernelInventory
namespace FileTree

section Lookup

variable {tree : FileTree}

/-- The lookup of names with further ones behind them goes on with these from
`reached`. -/
def LeadsOn (tree : FileTree) (links : Nat) (current : Location) (front : List String)
    (reached : Location) : Prop :=
  ∃ left, ∀ followLast behind, behind ≠ [] →
    tree.locateFrom followLast links current (front ++ behind) =
      tree.locateFrom followLast left reached behind

theorem LeadsOn.of_step
    {links linksLeft : Nat} {current next reached : Location} {front rest : List String}
    (leads : LeadsOn tree linksLeft next rest reached)
    (step : ∀ followLast behind, behind ≠ [] →
      tree.locateFrom followLast links current (front ++ behind) =
        tree.locateFrom followLast linksLeft next (rest ++ behind)) :
    LeadsOn tree links current front reached := by
  obtain ⟨left, onward⟩ := leads
  refine ⟨left, fun followLast behind more => ?_⟩
  rw [step followLast behind more, onward followLast behind more]

/-- Behind names that lead somewhere, the lookup of further names goes on from there. -/
theorem leadsOn_of_locateFrom
    {links : Nat} {current reached : Location} {front : List String}
    (found : tree.locateFrom true links current front = .ok reached) :
    LeadsOn tree links current front reached := by
  induction links, current, front using lookup_induction tree with
  | nil links current =>
      rw [locateFrom] at found
      obtain rfl := Except.ok.inj found
      exact ⟨links, fun _ _ _ => rfl⟩
  | fails links current name rest error step =>
      cases (locateFrom_of_fails step).symm.trans found
  | reaches links current name rest place step onward =>
      rw [locateFrom_of_reaches step] at found
      exact (onward found).of_step fun _ _ _ => locateFrom_of_reaches step
  | link links current name rest target step onward =>
      obtain ⟨left, rfl, inTarget⟩ := exists_left_of_link step found
      refine (onward left rfl inTarget).of_step fun followLast behind more => ?_
      rw [List.cons_append, locateFrom_of_link step (by simp [more]), List.append_assoc]

/-- Behind a path that leads somewhere, one more name is looked up there. -/
theorem locate_child
    {path : Path} {location : Location}
    (located : tree.locate true path = .ok location) :
    ∃ left, ∀ followLast name,
      tree.locate followLast (path.child name) =
        if pathLimit ≤ (path.child name).toString.utf8ByteSize then .error .nameTooLong
        else tree.locateFrom followLast left location [name] := by
  unfold locate at located
  split at located
  · cases located
  · obtain ⟨left, onward⟩ := leadsOn_of_locateFrom located
    refine ⟨left, fun followLast name => ?_⟩
    rw [← onward followLast [name] (List.cons_ne_nil _ _), locate]
    rfl

/-- A proper name that can be followed is that of an entry.  Where it leads, the entry
stands, or else the entry is a link. -/
theorem of_locateFrom_singleton
    {left : Nat} {location reached : Location} {name : String}
    (proper : ProperName name)
    (found : tree.locateFrom true left location [name] = .ok reached) :
    location ++ [name] ∈ tree.locations ∧
      tree.locateFrom false left location [name] = .ok (location ++ [name]) ∧
      ((tree.node? (location ++ [name])).any Node.isLink = true ∨
        reached = location ++ [name]) := by
  cases step : tree.lookupStep location name with
  | fails error => cases (locateFrom_of_fails step).symm.trans found
  | reaches place =>
      obtain ⟨-, -, rfl, node, there, -⟩ := (lookupStep_eq_iff.mp step).of_proper proper
      rw [locateFrom_of_reaches step, locateFrom] at found
      rw [locateFrom_of_reaches step, locateFrom]
      exact ⟨mem_locations_of_node? (by simp) there, rfl,
        .inr (Except.ok.inj found).symm⟩
  | link target =>
      have link := node?_of_lookupStep step
      refine ⟨mem_locations_of_node? (by simp) link, ?_, .inl (by rw [link]; rfl)⟩
      rw [locateFrom_cons, step]
      rfl

theorem leadsTo_of_locate
    {followLast : Bool} {path : Path} {location : Location}
    (noNull : path.hasNull = false)
    (located : tree.locate followLast path = .ok location)
    (kind : Node → Bool) :
    tree.leadsTo followLast kind path = .ok ((tree.node? location).any kind) := by
  simp [leadsTo, noNull, located]

theorem leadsTo_eq_true_iff {followLast : Bool} {kind : Node → Bool} {path : Path} :
    tree.leadsTo followLast kind path = .ok true ↔
      path.hasNull = false ∧
        ∃ location, tree.locate followLast path = .ok location ∧
          (tree.node? location).any kind = true := by
  unfold leadsTo
  cases path.hasNull with
  | true => simp
  | false =>
      cases tree.locate followLast path with
      | error error => cases absent : error.meansAbsent <;> simp [absent]
      | ok location => simp

/-- A listing is that of the place that its path leads to. -/
theorem list_of_locate
    {path : Path} {location : Location}
    (noNull : path.hasNull = false)
    (located : tree.locate true path = .ok location) :
    tree.list path =
      match tree.listAt location with
      | .error error => .error (.refused error path.toString)
      | .ok names => .ok names := by
  rw [list, atPath_of_locate noNull located]
  cases tree.listAt location <;> rfl

theorem of_list
    {path : Path} {names : List String}
    (listed : tree.list path = .ok names) :
    ∃ location, tree.locate true path = .ok location ∧
      tree.listAt location = .ok names :=
  (atPath_eq_ok_iff.mp listed).2

end Lookup

section Children

variable {tree : FileTree} {path : Path} {name : String}

/-- Of the names that lead somewhere from a directory, a listing has the proper ones. -/
theorem mem_list_iff_proper
    (wellFormed : tree.WellFormed)
    {names : List String}
    (listed : tree.list path = .ok names)
    {reached : Location}
    (found : tree.locate true (path.child name) = .ok reached) :
    name ∈ names ↔ ProperName name := by
  obtain ⟨location, located, listedAt⟩ := of_list listed
  obtain ⟨-, member, proper⟩ := wellFormed.of_listAt listedAt
  refine ⟨proper name, fun isProper => ?_⟩
  obtain ⟨left, onward⟩ := locate_child located
  rw [onward] at found
  split at found
  · cases found
  · exact (member name).mpr (of_locateFrom_singleton isProper found).1

/-- An entry that is a directory itself stands right below the place of its parent. -/
theorem locate_child_of_directory
    {location : Location}
    (located : tree.locate true path = .ok location)
    (proper : ProperName name)
    (directory : tree.isDirectory (path.child name) = .ok true)
    (noLink : tree.isLink (path.child name) = .ok false) :
    tree.locate true (path.child name) = .ok (location ++ [name]) := by
  obtain ⟨noNull, reached, found, -⟩ := leadsTo_eq_true_iff.mp directory
  obtain ⟨left, onward⟩ := locate_child located
  rw [found]
  rw [onward] at found
  split at found
  · cases found
  next short =>
    obtain ⟨-, itself, linked | rfl⟩ := of_locateFrom_singleton proper found
    · have isLink : tree.isLink (path.child name) = .ok true := by
        refine leadsTo_eq_true_iff.mpr ⟨noNull, _, ?_, linked⟩
        rw [onward, if_neg short, itself]
      rw [isLink] at noLink
      cases noLink
    · rfl

end Children
end FileTree
end KernelInventory
