import KernelInventory.Proofs.FileTree.Linkless

/-!
# Places that names lead to without links

Where no link is met, a name leads from a directory down to one of its entries, and `..`
leads up to the directory above.  So the place that names lead to can be told from the
names alone: each `..` takes the name before it away.  Names lead out of a directory
exactly when, at some point, more of them have led up than down.
-/

namespace KernelInventory
namespace Path

/-! ## Names that lead up -/

/-- At some point, more of the names have led up than down, by more than a depth. -/
def ClimbsPast (depth : Nat) (names : List String) : Prop :=
  ∃ within, within <+: names ∧ within.countP (· ≠ "..") + depth < within.count ".."

theorem not_climbsPast_nil (depth : Nat) : ¬ ClimbsPast depth [] := by
  rintro ⟨within, isPrefix, more⟩
  rw [List.prefix_nil.mp isPrefix] at more
  cases more

theorem climbsPast_zero_up (rest : List String) : ClimbsPast 0 (".." :: rest) :=
  ⟨[".."], List.prefix_append [".."] rest, by decide⟩

theorem climbsPast_succ_up {depth : Nat} {rest : List String} :
    ClimbsPast (depth + 1) (".." :: rest) ↔ ClimbsPast depth rest := by
  constructor
  · rintro ⟨within, isPrefix, more⟩
    rcases List.prefix_cons_iff.mp isPrefix with rfl | ⟨tail, rfl, isTail⟩
    · cases more
    · rw [List.countP_cons_of_neg (by decide), List.count_cons_self] at more
      exact ⟨tail, isTail, by omega⟩
  · rintro ⟨within, isPrefix, more⟩
    refine ⟨".." :: within, (List.prefix_cons_inj _).mpr isPrefix, ?_⟩
    rw [List.countP_cons_of_neg (by decide), List.count_cons_self]
    omega

theorem climbsPast_down {depth : Nat} {name : String} {rest : List String}
    (down : name ≠ "..") :
    ClimbsPast depth (name :: rest) ↔ ClimbsPast (depth + 1) rest := by
  constructor
  · rintro ⟨within, isPrefix, more⟩
    rcases List.prefix_cons_iff.mp isPrefix with rfl | ⟨tail, rfl, isTail⟩
    · cases more
    · rw [List.countP_cons_of_pos (by simpa using down),
        List.count_cons_of_ne down] at more
      exact ⟨tail, isTail, by omega⟩
  · rintro ⟨within, isPrefix, more⟩
    refine ⟨name :: within, (List.prefix_cons_inj _).mpr isPrefix, ?_⟩
    rw [List.countP_cons_of_pos (by simpa using down), List.count_cons_of_ne down]
    omega

/-! ## Taking names away -/

theorem collapseStep_up (taken : List String) :
    collapseStep taken ".." = taken.dropLast :=
  if_pos rfl

theorem collapseStep_down {name : String} (down : name ≠ "..") (taken : List String) :
    collapseStep taken name = taken ++ [name] :=
  if_neg down

/-- Every name behind a place stood there before or has been added. -/
theorem count_foldl_collapseStep_le (name : String) (names taken : List String) :
    (names.foldl collapseStep taken).count name ≤ taken.count name + names.count
      name := by
  induction names generalizing taken with
  | nil => exact Nat.le_refl _
  | cons next rest inductionHypothesis =>
      have onward := inductionHypothesis (collapseStep taken next)
      by_cases up : next = ".."
      · subst up
        rw [List.foldl_cons, collapseStep_up] at *
        have fewer : taken.dropLast.count name ≤ taken.count name :=
          (List.dropLast_sublist taken).count_le name
        rw [List.count_cons]
        omega
      · rw [List.foldl_cons, collapseStep_down up] at *
        rw [List.count_append, List.count_singleton] at onward
        rw [List.count_cons]
        omega

/-- A directory that has been left, or never entered, is not entered by
other names than its own. -/
theorem not_prefix_foldl_collapseStep
    {front names taken : List String} {name : String}
    (absent : name ∉ names)
    (outside : ¬ front ++ [name] <+: taken) :
    ¬ front ++ [name] <+: names.foldl collapseStep taken := by
  induction names generalizing taken with
  | nil => exact outside
  | cons next rest inductionHypothesis =>
      rw [List.mem_cons, not_or] at absent
      refine inductionHypothesis absent.2 fun inside => outside ?_
      by_cases up : next = ".."
      · rw [up, collapseStep_up] at inside
        exact inside.trans (List.dropLast_prefix taken)
      · rw [collapseStep_down up] at inside
        rcases List.prefix_concat_iff.mp inside with same | inside
        · exact absurd (List.singleton_inj.mp (List.append_inj' same rfl).2) absent.1
        · exact inside

/-- Names lead out of a directory exactly if they climb past the depth they start at. -/
theorem prefix_foldl_collapseStep_iff
    (front : List String) {names : List String} {name : String}
    (absent : name ∉ names)
    (below : List String) :
    front ++ [name] <+: names.foldl collapseStep (front ++ [name] ++ below) ↔
      ¬ ClimbsPast below.length names := by
  induction names generalizing below with
  | nil => exact iff_of_true (List.prefix_append _ _) (not_climbsPast_nil _)
  | cons next rest inductionHypothesis =>
      rw [List.mem_cons, not_or] at absent
      rw [List.foldl_cons]
      by_cases up : next = ".."
      · subst up
        rw [collapseStep_up]
        rcases List.eq_nil_or_concat below with rfl | ⟨others, last, rfl⟩
        · rw [List.append_nil, List.dropLast_concat]
          refine iff_of_false (not_prefix_foldl_collapseStep absent.2 fun inside => ?_)
            (not_not_intro (climbsPast_zero_up rest))
          have shorter := inside.length_le
          rw [List.length_append, List.length_singleton] at shorter
          omega
        · rw [List.concat_eq_append, ← List.append_assoc, List.dropLast_concat,
            inductionHypothesis absent.2, List.length_append, List.length_singleton,
            climbsPast_succ_up]
      · rw [collapseStep_down up, List.append_assoc, inductionHypothesis absent.2,
          climbsPast_down up, List.length_append, List.length_singleton]

end Path

namespace FileTree

variable {tree : FileTree} {place target : Location}

/-! ## Directories -/

/-- A directory stands at a place. -/
def HasDirectory (tree : FileTree) (place : Location) : Prop :=
  (tree.node? place).any Node.isDirectory = true

theorem Searchable.hasDirectory (searchable : tree.Searchable place) :
    tree.HasDirectory place := by
  obtain ⟨listable, here⟩ := searchable
  rw [HasDirectory, here]
  rfl

/-- A directory stands at a place and at every place above it. -/
def Rooted (tree : FileTree) (place : Location) : Prop :=
  ∀ above, above <+: place → tree.HasDirectory above

theorem rooted_nil (tree : FileTree) : tree.Rooted [] := by
  intro above isPrefix
  rw [List.prefix_nil.mp isPrefix]
  rfl

theorem Rooted.directory (rooted : tree.Rooted place) : tree.HasDirectory place :=
  rooted place (List.prefix_refl place)

theorem Rooted.higher
    {above : Location}
    (rooted : tree.Rooted place)
    (isPrefix : above <+: place) :
    tree.Rooted above :=
  fun higher isHigher => rooted higher (isHigher.trans isPrefix)

theorem Rooted.down
    {name : String}
    (rooted : tree.Rooted place)
    (directory : tree.HasDirectory (place ++ [name])) :
    tree.Rooted (place ++ [name]) := by
  intro above isPrefix
  rcases List.prefix_concat_iff.mp isPrefix with rfl | isPrefix
  · exact directory
  · exact rooted above isPrefix

theorem HasDirectory.not_file (directory : tree.HasDirectory place) :
    (tree.node? place).any Node.isFile = false := by
  unfold HasDirectory at directory
  cases here : tree.node? place with
  | none => rfl
  | some node =>
      rw [here] at directory
      cases node with
      | file _ _ | link _ => cases directory
      | directory _ _ => rfl

/-! ## Going from place to place -/

/-- Names lead from a place to another one, from a directory to the next, and no link is
followed. Whether the directories may be searched does not matter. -/
inductive GoesTo (tree : FileTree) : Location → List String → Location → Prop
  | stay {place : Location} : GoesTo tree place [] place
  | up {place target : Location} {rest : List String} :
    tree.HasDirectory place →
    GoesTo tree place.dropLast rest target →
    GoesTo tree place (".." :: rest) target
  | down {place target : Location} {name : String} {rest : List String} :
    tree.HasDirectory place →
    ProperName name →
    (tree.node? (place ++ [name])).isSome →
    GoesTo tree (place ++ [name]) rest target →
    GoesTo tree place (name :: rest) target

/-- A path names a place that it leads to without a link. -/
def Names (tree : FileTree) (path : Path) (place : Location) : Prop :=
  tree.GoesTo (tree.startOf path) path.names place

namespace GoesTo

variable {names front behind : List String}

theorem foldl_eq (goes : tree.GoesTo place names target) :
    names.foldl Path.collapseStep place = target := by
  induction goes with
  | stay => rfl
  | up _ _ inductionHypothesis =>
      rw [List.foldl_cons, Path.collapseStep_up, inductionHypothesis]
  | down _ proper _ _ inductionHypothesis =>
      rw [List.foldl_cons, Path.collapseStep_down proper.2.2, inductionHypothesis]

theorem append
    {middle : Location}
    (goes : tree.GoesTo place front middle)
    (onward : tree.GoesTo middle behind target) :
    tree.GoesTo place (front ++ behind) target := by
  induction goes with
  | stay => exact onward
  | up directory _ inductionHypothesis =>
      exact .up directory (inductionHypothesis onward)
  | down directory proper stands _ inductionHypothesis =>
      exact .down directory proper stands (inductionHypothesis onward)

theorem split
    (goes : tree.GoesTo place (front ++ behind) target) :
    ∃ middle, tree.GoesTo place front middle ∧ tree.GoesTo middle behind target := by
  induction front generalizing place with
  | nil => exact ⟨place, .stay, goes⟩
  | cons name rest inductionHypothesis =>
      cases goes with
      | up directory goes =>
          obtain ⟨middle, toMiddle, onward⟩ := inductionHypothesis goes
          exact ⟨middle, .up directory toMiddle, onward⟩
      | down directory proper stands goes =>
          obtain ⟨middle, toMiddle, onward⟩ := inductionHypothesis goes
          exact ⟨middle, .down directory proper stands toMiddle, onward⟩

/-- Names that end at a directory start at one. -/
theorem directory_start
    (goes : tree.GoesTo place names target)
    (directory : tree.HasDirectory target) :
    tree.HasDirectory place := by
  cases goes with
  | stay => exact directory
  | up starts _ | down starts _ _ _ => exact starts

theorem rooted
    (goes : tree.GoesTo place names target)
    (rooted : tree.Rooted place)
    (directory : tree.HasDirectory target) :
    tree.Rooted target := by
  induction goes with
  | stay => exact rooted
  | @up place _ _ _ _ inductionHypothesis =>
      exact inductionHypothesis (rooted.higher (List.dropLast_prefix place)) directory
  | down _ _ _ goes inductionHypothesis =>
      exact inductionHypothesis (rooted.down (goes.directory_start directory)) directory

/-- The names of a directory lead to it from the root. -/
theorem of_rooted
    (wellFormed : tree.WellFormed)
    (rooted : tree.Rooted place) :
    tree.GoesTo [] place place := by
  induction place using List.reverseRecOn with
  | nil => exact .stay
  | append_singleton above name inductionHypothesis =>
      have higher := rooted.higher (List.prefix_append above [name])
      have stands : (tree.node? (above ++ [name])).isSome := by
        have directory := rooted.directory
        unfold HasDirectory at directory
        cases there : tree.node? (above ++ [name]) with
        | none => rw [there] at directory; cases directory
        | some node => rfl
      obtain ⟨node, there⟩ := Option.isSome_iff_exists.mp stands
      have proper : ProperName name :=
        wellFormed.proper _ (mem_locations_of_node? (by simp) there) name (by simp)
      exact (inductionHypothesis higher).append
        (.down higher.directory proper stands .stay)

/-- The last name that leads to a file is that of the file, in a directory that the
names in front lead to. -/
theorem to_file
    (goes : tree.GoesTo place names target)
    (rooted : tree.Rooted place)
    (file : (tree.node? target).any Node.isFile = true) :
    ∃ front name directory, names = front ++ [name] ∧ target = directory ++ [name] ∧
      tree.GoesTo place front directory ∧ tree.Rooted directory := by
  rcases List.eq_nil_or_concat names with rfl | ⟨front, name, rfl⟩
  · cases goes
    rw [rooted.directory.not_file] at file
    cases file
  · rw [List.concat_eq_append] at goes
    obtain ⟨directory, toDirectory, last⟩ := goes.split
    cases last with
    | up starts last =>
        cases last
        have above :=
          (toDirectory.rooted rooted starts).higher (List.dropLast_prefix directory)
        rw [above.directory.not_file] at file
        cases file
    | down starts _ _ last =>
        cases last
        exact ⟨front, name, directory, List.concat_eq_append, rfl, toDirectory,
          toDirectory.rooted rooted starts⟩

/-- In a tree without links, what names lead to by a lookup they lead to. -/
theorem of_locateFrom
    (noLinks : ∀ entry ∈ tree.entries, entry.2.isLink = false)
    {followLast : Bool} {links : Nat}
    (solid : ∀ name ∈ names, name ≠ "" ∧ name ≠ ".")
    (located : tree.locateFrom followLast links place names = .ok target) :
    tree.GoesTo place names target := by
  induction names generalizing place with
  | nil =>
      rw [locateFrom] at located
      obtain rfl := Except.ok.inj located
      exact .stay
  | cons name rest inductionHypothesis =>
      rw [List.forall_mem_cons] at solid
      obtain ⟨⟨nonempty, noDot⟩, solidRest⟩ := solid
      cases step : tree.lookupStep place name with
      | fails error => cases (locateFrom_of_fails step).symm.trans located
      | link linked =>
          exact absurd (node?_of_lookupStep step) (node?_ne_link noLinks _ linked)
      | reaches next =>
          rw [locateFrom_of_reaches step] at located
          have onward := inductionHypothesis solidRest located
          cases lookupStep_eq_iff.mp step with
          | stay _ silent => exact absurd silent (by simp [nonempty, noDot])
          | up searchable => exact .up searchable.hasDirectory onward
          | down searchable proper _ entry =>
              obtain ⟨node, there, -⟩ := entry
              exact .down searchable.hasDirectory proper (by rw [there]; rfl) onward

end GoesTo

/-- In a tree without links, a path names the place that it leads to. -/
theorem names_of_locate
    (noLinks : ∀ entry ∈ tree.entries, entry.2.isLink = false)
    {path : Path}
    (solid : ∀ name ∈ path.names, name ≠ "" ∧ name ≠ ".")
    (located : tree.locate true path = .ok place) :
    tree.Names path place := by
  unfold locate at located
  split at located
  · cases located
  · exact GoesTo.of_locateFrom noLinks solid located

theorem names_iff_of_anchor
    {path : Path}
    (absolute : path.anchor ≠ .working) :
    tree.Names path place ↔ tree.GoesTo [] path.names place := by
  have isAbsolute : path.isAbsolute = true := decide_eq_true absolute
  rw [Names, startOf, if_pos isAbsolute]

theorem absolute_home (tree : FileTree) (path : Path) :
    path.absolute tree.home =
      if path.isAbsolute then path else ⟨.root, tree.workingDirectory ++ path.names⟩ :=
  rfl

theorem anchor_absolute_ne (tree : FileTree) (path : Path) :
    (path.absolute tree.home).anchor ≠ .working := by
  rw [absolute_home]
  split
  next absolute =>
    exact of_decide_eq_true absolute
  · exact Anchor.noConfusion

/-- A path that is made absolute names the same place. -/
theorem Names.absolute
    (wellFormed : tree.WellFormed)
    (housed : tree.Rooted tree.workingDirectory)
    {path : Path}
    (named : tree.Names path place) :
    tree.Names (path.absolute tree.home) place := by
  rw [names_iff_of_anchor (tree.anchor_absolute_ne path), absolute_home]
  unfold Names startOf at named
  split_ifs at named with absolute
  · rw [if_pos absolute]
    exact named
  · rw [if_neg absolute]
    exact (GoesTo.of_rooted wellFormed housed).append named

end FileTree
end KernelInventory
