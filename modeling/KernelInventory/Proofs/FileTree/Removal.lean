import KernelInventory.Proofs.FileTree.Descent
import KernelInventory.Proofs.FileTree.Outline

/-!
# Removing a file

A tree without one of its regular files differs from the tree in what leads to
that file, and in nothing else.  A lookup that comes to the file comes to nothing
then, and one that would go on behind it fails for another reason; so tests of
other kinds, canonical paths and all other files stay as they are, and a listing
loses the name of the file.
-/

namespace KernelInventory
namespace FileTree

/-- A regular file stands at a place, and nothing below it; the working directory is a
directory. -/
structure HoldsFile (tree : FileTree) (place : Location) : Prop where
  regular : (tree.node? place).any Node.isFile = true
  leaf : ∀ location ∈ tree.locations, place <+: location → location = place
  home : (tree.node? tree.workingDirectory).any Node.isDirectory = true

theorem lookup_filter_of_keep
    {α : Type} {keep : Location → Bool} {location : Location}
    (kept : keep location = true)
    (entries : List (Location × α)) :
    (entries.filter fun entry => keep entry.1).lookup location = entries.lookup
      location := by
  induction entries with
  | nil => rfl
  | cons entry rest inductionHypothesis =>
      obtain ⟨other, node⟩ := entry
      by_cases same : location = other
      · subst same
        rw [List.filter_cons, if_pos kept, List.lookup_cons_self, List.lookup_cons_self]
      · have different : (location == other) = false := beq_eq_false_iff_ne.mpr same
        rw [List.filter_cons]
        split <;> simp only [List.lookup_cons, different, inductionHypothesis]

theorem mem_entries_remove_iff
    {tree : FileTree} {place : Location} {entry : Location × Node} :
    entry ∈ (tree.remove place).entries ↔
      entry ∈ tree.entries ∧ ¬ place <+: entry.1 := by
  rw [remove, List.mem_filter, Bool.not_eq_true', ← Bool.not_eq_true,
    List.isPrefixOf_iff_prefix]

namespace HoldsFile

variable {tree : FileTree} {place : Location}

theorem node (holds : tree.HoldsFile place) :
    ∃ bytes readable, tree.node? place = some (.file bytes readable) := by
  have regular := holds.regular
  cases here : tree.node? place with
  | none => simp [here] at regular
  | some node =>
      rw [here] at regular
      cases node with
      | file bytes readable => exact ⟨bytes, readable, rfl⟩
      | link _ | directory _ _ => cases regular

theorem ne_of_directory
    (holds : tree.HoldsFile place)
    {location : Location}
    (directory : (tree.node? location).any Node.isDirectory = true) :
    location ≠ place := by
  rintro rfl
  obtain ⟨_, _, here⟩ := holds.node
  rw [here] at directory
  cases directory

theorem nonempty (holds : tree.HoldsFile place) : place ≠ [] := by
  have root : ([] : Location) ≠ place := holds.ne_of_directory rfl
  exact root.symm

theorem ne_of_link
    (holds : tree.HoldsFile place)
    {location : Location} {target : String}
    (link : tree.node? location = some (.link target)) :
    location ≠ place := by
  rintro rfl
  obtain ⟨_, _, here⟩ := holds.node
  cases here.symm.trans link

/-- No directory lies right below the file. -/
theorem dropLast_ne
    (holds : tree.HoldsFile place)
    {location : Location}
    (directory : (tree.node? location).any Node.isDirectory = true) :
    location.dropLast ≠ place := by
  intro above
  by_cases root : location = []
  · subst root
    exact holds.nonempty above.symm
  · cases here : tree.node? location with
    | none => simp [here] at directory
    | some node =>
        have below : place <+: location := above ▸ List.dropLast_prefix location
        exact holds.ne_of_directory directory
          (holds.leaf location (mem_locations_of_node? root here) below)

theorem proper_home
    (holds : tree.HoldsFile place)
    (wellFormed : tree.WellFormed)
    {name : String}
    (member : name ∈ tree.workingDirectory) :
    ProperName name := by
  have home := holds.home
  cases here : tree.node? tree.workingDirectory with
  | none => simp [here] at home
  | some node =>
      have nonempty : tree.workingDirectory ≠ [] := List.ne_nil_of_mem member
      exact wellFormed.proper _ (mem_locations_of_node? nonempty here) name member

/-- No link starts at the file that is not met there. -/
theorem startFor_ne
    (holds : tree.HoldsFile place)
    {current : Location}
    (away : current ≠ place)
    (target : String) :
    startFor target current ≠ place := by
  unfold startFor
  split
  · exact holds.nonempty.symm
  · exact away

/-! ## Nodes -/

theorem node?_remove_self (holds : tree.HoldsFile place) :
    (tree.remove place).node? place = none := by
  rw [node?, if_neg holds.nonempty, List.lookup_eq_none_iff]
  intro entry member
  rw [bne_iff_ne]
  rintro rfl
  exact (mem_entries_remove_iff.mp member).2 List.prefix_rfl

theorem node?_remove
    (holds : tree.HoldsFile place)
    {location : Location}
    (other : location ≠ place) :
    (tree.remove place).node? location = tree.node? location := by
  rw [node?, node?]
  split
  · rfl
  · by_cases below : place <+: location
    · have absent : location ∉ tree.locations := fun member =>
        other (holds.leaf location member below)
      have missing : tree.entries.lookup location = none := by
        rw [← Option.not_isSome_iff_eq_none, lookup_isSome_iff]
        exact absent
      rw [missing, List.lookup_eq_none_iff]
      intro entry member
      rw [bne_iff_ne]
      rintro rfl
      exact absent (List.mem_map_of_mem (mem_entries_remove_iff.mp member).1)
    · have kept : (!place.isPrefixOf location) = true := by
        rwa [Bool.not_eq_true', ← Bool.not_eq_true, List.isPrefixOf_iff_prefix]
      exact @lookup_filter_of_keep _ (fun location => !place.isPrefixOf location) _ kept
        _

theorem mem_locations_remove_iff (holds : tree.HoldsFile place) {location : Location} :
    location ∈ (tree.remove place).locations ↔
      location ∈ tree.locations ∧ location ≠ place := by
  simp only [locations, List.mem_map, mem_entries_remove_iff]
  constructor
  · rintro ⟨entry, ⟨member, away⟩, rfl⟩
    exact ⟨⟨entry, member, rfl⟩, fun same => away (same ▸ List.prefix_rfl)⟩
  · rintro ⟨⟨entry, member, rfl⟩, other⟩
    exact ⟨entry, ⟨member, fun below =>
      other (holds.leaf _ (List.mem_map_of_mem member) below)⟩, rfl⟩

/-! ## Lookups -/

/-- What a lookup comes to with a file and without it: to the same, which is not the
file, or to the file or behind it and to nothing. -/
inductive Agrees (place : Location) :
    Except SystemError Location → Except SystemError Location → Prop
  | same {found : Except SystemError Location} : found ≠ .ok place →
      Agrees place found found
  | file : Agrees place (.ok place) (.error .noSuchEntry)
  | behind : Agrees place (.error .notDirectory) (.error .noSuchEntry)

theorem Agrees.error (place : Location) (error : SystemError) :
    Agrees place (.error error) (.error error) :=
  .same nofun

/-- Behind a file, nothing is found. -/
theorem agrees_at_file
    (holds : tree.HoldsFile place)
    (followLast : Bool) (links : Nat) (names : List String) :
    Agrees place (tree.locateFrom followLast links place names)
      (.error .noSuchEntry) := by
  obtain ⟨bytes, readable, here⟩ := holds.node
  cases names with
  | nil =>
      rw [locateFrom]
      exact .file
  | cons name rest =>
      rw [locateFrom_of_fails (LooksUp.noDirectory here rfl).eq]
      exact .behind

theorem searchable_remove_iff
    (holds : tree.HoldsFile place)
    {location : Location}
    (other : location ≠ place) :
    (tree.remove place).Searchable location ↔ tree.Searchable location := by
  rw [Searchable, Searchable, holds.node?_remove other]

/-- Away from the file, a name comes to the same without it, and not to the file, unless
it is that of the file. -/
theorem lookupStep_remove
    (holds : tree.HoldsFile place)
    {current : Location}
    (away : current ≠ place)
    (name : String) :
    ((tree.remove place).lookupStep current name = tree.lookupStep current name ∧
        tree.lookupStep current name ≠ .reaches place) ∨
      tree.lookupStep current name = .reaches place ∧
        (tree.remove place).lookupStep current name = .fails .noSuchEntry := by
  have here := holds.node?_remove away
  have searches := holds.searchable_remove_iff away
  have looked := tree.looksUp current name
  generalize tree.lookupStep current name = step at looked
  cases looked with
  | nowhere nowhere => exact .inl ⟨(LooksUp.nowhere (here.trans nowhere)).eq, nofun⟩
  | noDirectory node noDirectory =>
      exact .inl ⟨(LooksUp.noDirectory (here.trans node) noDirectory).eq, nofun⟩
  | stay directory silent =>
      refine .inl ⟨(LooksUp.stay (here.trans directory) silent).eq, ?_⟩
      exact fun same => away (LookupStep.reaches.inj same)
  | locked directory nonempty =>
      exact .inl ⟨(LooksUp.locked (here.trans directory) nonempty).eq, nofun⟩
  | up searchable =>
      refine .inl ⟨(LooksUp.up (searches.mpr searchable)).eq, ?_⟩
      obtain ⟨listable, directory⟩ := searchable
      have above : current.dropLast ≠ place :=
        holds.dropLast_ne (by rw [directory]; rfl)
      exact fun same => above (LookupStep.reaches.inj same)
  | long searchable proper long =>
      exact .inl ⟨(LooksUp.long (searches.mpr searchable) proper long).eq, nofun⟩
  | absent searchable proper short there =>
      have absent : (tree.remove place).node? (current ++ [name]) = none := by
        by_cases same : current ++ [name] = place
        · rw [same, holds.node?_remove_self]
        · rw [holds.node?_remove same, there]
      exact .inl ⟨(LooksUp.absent (searches.mpr searchable) proper short absent).eq,
        nofun⟩
  | link searchable proper short there =>
      have link := (holds.node?_remove (holds.ne_of_link there)).trans there
      exact .inl ⟨(LooksUp.link (searches.mpr searchable) proper short link).eq, nofun⟩
  | down searchable proper short entry =>
      by_cases same : current ++ [name] = place
      · have absent : (tree.remove place).node? (current ++ [name]) = none := by
          rw [same, holds.node?_remove_self]
        exact .inr ⟨congrArg LookupStep.reaches same,
          (LooksUp.absent (searches.mpr searchable) proper short absent).eq⟩
      · rw [← holds.node?_remove same] at entry
        refine .inl ⟨(LooksUp.down (searches.mpr searchable) proper short entry).eq, ?_⟩
        exact fun reaches => same (LookupStep.reaches.inj reaches)

theorem agrees_locateFrom
    (holds : tree.HoldsFile place)
    (followLast : Bool) (links : Nat) {current : Location} (names : List String)
    (away : current ≠ place) :
    Agrees place (tree.locateFrom followLast links current names)
      ((tree.remove place).locateFrom followLast links current names) := by
  -- the lookups go side by side until one comes to the file; from there nothing is
  -- found
  induction links, current, names using lookup_induction tree with
  | nil links current =>
      rw [locateFrom, locateFrom]
      exact .same fun same => away (Except.ok.inj same)
  | fails links current name rest error step =>
      obtain ⟨same, -⟩ | ⟨toFile, -⟩ := holds.lookupStep_remove away name
      · rw [locateFrom_of_fails step, locateFrom_of_fails (same.trans step)]
        exact .error place error
      · cases step.symm.trans toFile
  | reaches links current name rest next step onward =>
      obtain ⟨same, apart⟩ | ⟨toFile, lost⟩ := holds.lookupStep_remove away name
      · rw [locateFrom_of_reaches step, locateFrom_of_reaches (same.trans step)]
        refine onward ?_
        rintro rfl
        exact apart step
      · rw [locateFrom_of_reaches toFile, locateFrom_of_fails lost]
        exact holds.agrees_at_file followLast links rest
  | link links current name rest target step onward =>
      obtain ⟨same, -⟩ | ⟨toFile, -⟩ := holds.lookupStep_remove away name
      · rw [locateFrom_cons, locateFrom_cons, same, step]
        dsimp only
        split
        · exact .same fun same =>
            holds.ne_of_link (node?_of_lookupStep step) (Except.ok.inj same)
        · cases links with
          | zero => exact .error place _
          | succ left => exact onward left rfl (holds.startFor_ne away target)
      · cases step.symm.trans toFile

theorem agrees_locate (holds : tree.HoldsFile place) (followLast : Bool) (path : Path) :
    Agrees place (tree.locate followLast path)
      ((tree.remove place).locate followLast path) := by
  unfold locate
  split
  · exact .error place _
  · have away : tree.startOf path ≠ place := by
      unfold startOf
      split
      · exact holds.nonempty.symm
      · exact holds.ne_of_directory holds.home
    exact holds.agrees_locateFrom followLast linkBudget path.names away

/-- What leads somewhere else leads there without the file as well. -/
theorem locate_remove
    (holds : tree.HoldsFile place)
    {followLast : Bool} {path : Path} {location : Location}
    (located : tree.locate followLast path = .ok location)
    (other : location ≠ place) :
    (tree.remove place).locate followLast path = .ok location := by
  have agrees := holds.agrees_locate followLast path
  rw [located] at agrees
  generalize (tree.remove place).locate followLast path = found at agrees
  cases agrees with
  | same _ => rfl
  | file => exact absurd rfl other

/-- What leads somewhere without the file leads there with it. -/
theorem of_locate_remove
    (holds : tree.HoldsFile place)
    {followLast : Bool} {path : Path} {location : Location}
    (relocated : (tree.remove place).locate followLast path = .ok location) :
    tree.locate followLast path = .ok location ∧ location ≠ place := by
  have agrees := holds.agrees_locate followLast path
  rw [relocated] at agrees
  generalize tree.locate followLast path = found at agrees
  cases agrees with
  | same away => exact ⟨rfl, fun same => away (congrArg Except.ok same)⟩

/-! ## Tests -/

theorem leadsTo_remove
    (holds : tree.HoldsFile place)
    {kind : Node → Bool}
    (noFile : ∀ bytes readable, kind (.file bytes readable) = false)
    (followLast : Bool) (path : Path) :
    (tree.remove place).leadsTo followLast kind path = tree.leadsTo followLast kind
      path := by
  have agrees := holds.agrees_locate followLast path
  unfold leadsTo
  split
  · rfl
  · generalize tree.locate followLast path = found at agrees
    generalize (tree.remove place).locate followLast path = left at agrees
    cases agrees with
    | same away =>
        cases found with
        | error error => rfl
        | ok location =>
            dsimp only
            rw [holds.node?_remove fun same => away (congrArg Except.ok same)]
    | file =>
        obtain ⟨bytes, readable, here⟩ := holds.node
        simp [here, noFile, SystemError.meansAbsent]
    | behind => rfl

theorem isDirectory_remove (holds : tree.HoldsFile place) (path : Path) :
    (tree.remove place).isDirectory path = tree.isDirectory path :=
  holds.leadsTo_remove (fun _ _ => rfl) true path

theorem isLink_remove (holds : tree.HoldsFile place) (path : Path) :
    (tree.remove place).isLink path = tree.isLink path :=
  holds.leadsTo_remove (fun _ _ => rfl) false path

/-- Of what leads to regular files, only what leads to the file is lost. -/
theorem isFile_remove_eq_true_iff (holds : tree.HoldsFile place) (path : Path) :
    (tree.remove place).isFile path = .ok true ↔
      tree.isFile path = .ok true ∧ tree.locate true path ≠ .ok place := by
  have agrees := holds.agrees_locate true path
  rw [isFile, isFile, leadsTo_eq_true_iff, leadsTo_eq_true_iff, and_assoc]
  refine and_congr_right fun _ => ?_
  generalize tree.locate true path = found at agrees
  generalize (tree.remove place).locate true path = left at agrees
  cases agrees with
  | same away =>
      rw [and_iff_left away]
      refine exists_congr fun location => and_congr_right ?_
      rintro rfl
      rw [holds.node?_remove fun same => away (congrArg Except.ok same)]
  | file | behind => simp

/-- Other files read as before. -/
theorem readText_remove
    (holds : tree.HoldsFile place)
    {path : Path} {location : Location}
    (located : tree.locate true path = .ok location)
    (other : location ≠ place) :
    (tree.remove place).readText path = tree.readText path := by
  have sameRead : (tree.remove place).readAt location = tree.readAt location := by
    rw [readAt, readAt, holds.node?_remove other]
  rw [readText, readText]
  cases noNull : path.hasNull with
  | true => rw [atPath_of_null noNull, atPath_of_null noNull]
  | false =>
      rw [atPath_of_locate noNull located,
        atPath_of_locate noNull (holds.locate_remove located other), sameRead]

/-! ## Listings -/

/-- A listing loses the name of the file if it has it. -/
theorem list_remove
    (holds : tree.HoldsFile place)
    (wellFormed : tree.WellFormed)
    {path : Path} {location : Location} {names : List String}
    (listed : tree.list path = .ok names)
    (located : tree.locate true path = .ok location) :
    (tree.remove place).list path =
      .ok (names.filter fun name => location ++ [name] ≠ place) := by
  obtain ⟨noNull, reached, leads, listedAt⟩ := atPath_eq_ok_iff.mp listed
  obtain rfl := Except.ok.inj (located.symm.trans leads)
  obtain ⟨⟨searchable, here⟩, -⟩ := listAt_eq_ok_iff.mp listedAt
  have other : location ≠ place := holds.ne_of_directory (by rw [here]; rfl)
  have relisted : (tree.remove place).listAt location =
      .ok (((tree.remove place).namesAt location).mergeSort (· ≤ ·)) :=
    listAt_eq_ok_iff.mpr ⟨⟨searchable, (holds.node?_remove other).trans here⟩, rfl⟩
  obtain ⟨sorted, member, -⟩ := wellFormed.of_listAt listedAt
  obtain ⟨resorted, remember, -⟩ := (wellFormed.remove place).of_listAt relisted
  have sameMembers : ∀ name,
      name ∈ ((tree.remove place).namesAt location).mergeSort (· ≤ ·) ↔
      name ∈ names.filter fun name => location ++ [name] ≠ place := by
    intro name
    rw [remember, holds.mem_locations_remove_iff, List.mem_filter, member,
      decide_eq_true_iff]
  rw [list_of_locate noNull (holds.locate_remove located other), relisted]
  exact congrArg Except.ok (resorted.eq_of_mem_iff (sorted.filter _) sameMembers)

/-- The name of the file leads to the file if it leads anywhere. -/
theorem eq_of_locate_child
    (holds : tree.HoldsFile place)
    {path : Path} {location reached : Location} {name : String}
    (located : tree.locate true path = .ok location)
    (proper : ProperName name)
    (there : location ++ [name] = place)
    (found : tree.locate true (path.child name) = .ok reached) :
    reached = place := by
  obtain ⟨left, onward⟩ := locate_child located
  rw [onward] at found
  split at found
  · cases found
  · obtain ⟨-, -, linked | same⟩ := of_locateFrom_singleton proper found
    · obtain ⟨bytes, readable, here⟩ := holds.node
      rw [there, here] at linked
      cases linked
    · rw [same, there]

/-- Without the file, no more can be listed. -/
theorem exists_list_remove_error
    (holds : tree.HoldsFile place)
    {path : Path} {failure : FileFailure}
    (failed : tree.list path = .error failure) :
    ∃ other, (tree.remove place).list path = .error other := by
  cases relisted : (tree.remove place).list path with
  | error other => exact ⟨other, rfl⟩
  | ok names =>
      obtain ⟨noNull, location, relocated, relistedAt⟩ := atPath_eq_ok_iff.mp relisted
      obtain ⟨located, other⟩ := holds.of_locate_remove relocated
      obtain ⟨⟨searchable, here⟩, -⟩ := listAt_eq_ok_iff.mp relistedAt
      rw [holds.node?_remove other] at here
      have listed : tree.listAt location = .ok _ :=
        listAt_eq_ok_iff.mpr ⟨⟨searchable, here⟩, rfl⟩
      have leads : tree.list path = .ok _ :=
        atPath_eq_ok_iff.mpr ⟨noNull, location, located, listed⟩
      cases leads.symm.trans failed

/-! ## Canonical paths -/

theorem replacementStep_remove
    (holds : tree.HoldsFile place)
    (current : Path) (name : String) :
    (tree.remove place).replacementStep false current name =
      tree.replacementStep false current name := by
  have agrees := holds.agrees_locate false (current.child name)
  unfold replacementStep
  generalize tree.locate false (current.child name) = found at agrees ⊢
  generalize (tree.remove place).locate false (current.child name) = left at agrees ⊢
  cases agrees with
  | same away =>
      cases found with
      | error error => rfl
      | ok location =>
          dsimp only
          rw [holds.node?_remove fun same => away (congrArg Except.ok same)]
  | file =>
      obtain ⟨bytes, readable, here⟩ := holds.node
      simp only [here]
      rfl
  | behind => rfl

theorem expand_remove
    (holds : tree.HoldsFile place)
    (pending : List Sighting) (current : Path) (names : List String) :
    (tree.remove place).expand false pending current names =
      tree.expand false pending current names :=
  expand_congr holds.replacementStep_remove nofun pending current names

theorem realPath_remove (holds : tree.HoldsFile place) (path : Path) :
    (tree.remove place).realPath path = tree.realPath path := by
  rw [realPath, realPath, expandPath, expandPath, holds.expand_remove]
  split
  next expansion _ =>
    have sameFlat : (tree.remove place).flatten expansion.path =
        tree.flatten expansion.path := rfl
    have agrees := holds.agrees_locate true (tree.flatten expansion.path)
    dsimp only
    rw [sameFlat]
    generalize tree.locate true (tree.flatten expansion.path) = found at agrees
    generalize (tree.remove place).locate true (tree.flatten expansion.path) =
      left at agrees
    cases agrees with
    | same _ | file | behind => rfl
  · rfl

end HoldsFile
end FileTree
end KernelInventory
