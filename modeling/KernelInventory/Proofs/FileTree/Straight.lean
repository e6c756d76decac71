import KernelInventory.Proofs.FileTree.Plain
import KernelInventory.Proofs.FileTree.Descent
import KernelInventory.Proofs.FileTree.Outline

/-!
# Canonical paths of directories and their entries

Where a canonical form exists, the links of a path have been replaced until none is
left: what remains leads straight to the place that the path leads to.  So the canonical
form of a directory's path, with the name of a directory in there behind it, is the
canonical form of the path of the latter.
-/

namespace KernelInventory
namespace FileTree

variable {tree : FileTree}

/-! ## Expansions -/

/-- Replacing links with everything on the way being there fails, or comes to a path
without links, and then it comes to the same path without asking for anything. -/
theorem expand_strict (pending : List Sighting) (current : Path) (names : List String) :
    (∃ failure, tree.expand true pending current names = .error failure) ∨
      ∃ path, tree.expand true pending current names = .ok (.settled path) ∧
        tree.expand false pending current names = .ok (.settled path) := by
  induction pending, current, names using expand_induction tree true with
  | nil pending current => exact .inr ⟨current, by rw [expand], by rw [expand]⟩
  | fails pending current name rest failure step =>
      exact .inl ⟨failure, expand_of_fails step⟩
  | reaches pending current name rest path step onward =>
      obtain ⟨failure, fails⟩ | lax := tree.replacementStep_lax current name
      · cases step.symm.trans fails
      · rw [expand_of_reaches step, expand_of_reaches (lax.symm.trans step)]
        exact onward
  | again pending current name rest location target step again =>
      refine .inl ⟨tree.loopFailure (current.child name), ?_⟩
      rw [expand_of_again step again, if_pos rfl]
  | link pending current name rest location target step idle inside onward =>
      obtain ⟨failure, failed⟩ | ⟨middle, same, lax⟩ := inside
      · refine .inl ⟨failure, ?_⟩
        rw [expand_of_idle step idle, failed]
      · obtain ⟨failure, fails⟩ | laxStep := tree.replacementStep_lax current name
        · cases step.symm.trans fails
        · rw [expand_of_link step idle same,
            expand_of_link (laxStep.symm.trans step) idle lax]
          exact onward middle

/-- From a path without links, the replacement goes on with further names. -/
theorem expand_append
    {strict : Bool} (pending : List Sighting) (current : Path)
    (names behind : List String) :
    ∀ path, tree.expand strict pending current names = .ok (.settled path) →
      tree.expand strict pending current (names ++ behind) =
        tree.expand strict pending path behind := by
  induction pending, current, names using expand_induction tree strict with
  | nil pending current =>
      intro path settled
      rw [expand] at settled
      obtain rfl := Expansion.settled.inj (Except.ok.inj settled)
      rfl
  | fails pending current name rest failure step =>
      intro path settled
      rw [expand_of_fails step] at settled
      cases settled
  | reaches pending current name rest path step onward =>
      rw [List.cons_append, expand_of_reaches step, expand_of_reaches step]
      exact onward
  | again pending current name rest location target step again =>
      intro path settled
      cases expand_ne_settled_of_again step again settled
  | link pending current name rest location target step idle inside onward =>
      intro path settled
      obtain ⟨middle, inTarget, behindIt⟩ := exists_inside_of_link step idle settled
      rw [List.cons_append, expand_of_link step idle inTarget]
      exact onward middle path behindIt

/-- The name of an entry that can be looked up and is no link is kept as it is
written. -/
theorem expand_of_located
    {strict : Bool} {current : Path} {name : String} {location : Location}
    (proper : ProperName name)
    (noNull : name.toList.contains '\x00' = false)
    (located : tree.locate false (current.child name) = .ok location)
    (noLink : (tree.node? location).any Node.isLink = false)
    (pending : List Sighting) (rest : List String) :
    tree.expand strict pending current (name :: rest) =
      tree.expand strict pending (current.child name) rest :=
  expand_of_reaches (Replaces.down proper noNull located noLink).eq

/-! ## Paths without links -/

/-- A path leads to a place through directories only, and names `..` stand
at its beginning only. -/
inductive Straight (tree : FileTree) : Path → Location → Prop
  | root : Straight tree ⟨.root, []⟩ []
  | here : Straight tree Path.here tree.workingDirectory
  | up {path : Path} {place : Location} :
    Straight tree path place →
    tree.Searchable place →
    path.anchor = .working →
    (path.names = [] ∨ path.names.getLast? = some "..") →
    Straight tree (path.child "..") place.dropLast
  | down {path : Path} {place : Location} {name : String} :
    Straight tree path place →
    tree.Searchable place →
    ProperName name →
    name.utf8ByteSize ≤ longestName →
    (∃ node, tree.node? (place ++ [name]) = some node ∧ node.isLink = false) →
    Straight tree (path.child name) (place ++ [name])

namespace Straight

variable {path : Path} {place : Location}

/-- From the end of a path without links, the lookup goes on at the place
that the path leads to. -/
theorem locateFrom_eq
    (straight : Straight tree path place)
    (followLast : Bool) (links : Nat) (behind : List String) :
    tree.locateFrom followLast links (tree.startOf path) (path.names ++ behind) =
      tree.locateFrom followLast links place behind := by
  induction straight generalizing behind with
  | root | here => rfl
  | @up path place _ searchable _ _ inductionHypothesis =>
      have onward := inductionHypothesis (".." :: behind)
      rw [locateFrom_up searchable] at onward
      rw [← onward, Path.child, List.append_assoc]
      rfl
  | @down path place name _ searchable proper short noLink inductionHypothesis =>
      have onward := inductionHypothesis (name :: behind)
      rw [locateFrom_down searchable proper short noLink] at onward
      rw [← onward, Path.child, List.append_assoc]
      rfl

/-- A path without links that is not too long leads to its place. -/
theorem locate_eq
    (straight : Straight tree path place)
    (followLast : Bool)
    (short : path.toString.utf8ByteSize < pathLimit) :
    tree.locate followLast path = .ok place := by
  have onward := straight.locateFrom_eq followLast linkBudget []
  rw [List.append_nil] at onward
  rw [locate, if_neg (Nat.not_le.mpr short), onward, locateFrom]

/-- One directory up from a path without links. -/
theorem up_path (straight : Straight tree path place)
    (searchable : tree.Searchable place) :
    Straight tree path.up place.dropLast := by
  unfold Path.up
  split
  next ascending =>
    exact straight.up searchable ascending.1 ascending.2
  next descending =>
    cases straight with
    | root => exact Straight.root
    | here => exact absurd ⟨rfl, Or.inl rfl⟩ descending
    | up _ _ relative _ =>
        exact absurd ⟨relative, Or.inr (by simp [Path.child])⟩ descending
    | @down front place name straight _ _ _ _ =>
        have back : (front.child name).parent = front := by
          simp [Path.child, Path.parent]
        rw [back, List.dropLast_concat]
        exact straight

/-- An absolute path without links has one separator in front. -/
theorem anchor_ne (straight : Straight tree path place) :
    path.anchor ≠ .doubleRoot := by
  induction straight with
  | root | here => nofun
  | up _ _ _ _ inductionHypothesis | down _ _ _ _ _ inductionHypothesis =>
      exact inductionHypothesis

/-- An entry that is looked up behind a path without links stands right below its
end. -/
theorem of_locate_child
    (straight : Straight tree path place)
    {name : String} {location : Location}
    (proper : ProperName name)
    (located : tree.locate false (path.child name) = .ok location) :
    location = place ++ [name] ∧ tree.Searchable place ∧
      name.utf8ByteSize ≤ longestName ∧
      ∃ node, tree.node? location = some node := by
  have start : tree.startOf (path.child name) = tree.startOf path := rfl
  unfold locate at located
  split at located
  · cases located
  · rw [start, Path.child, straight.locateFrom_eq] at located
    cases step : tree.lookupStep place name with
    | fails error => cases (locateFrom_of_fails step).symm.trans located
    | reaches next =>
        obtain ⟨searchable, short, rfl, node, there, -⟩ :=
          (lookupStep_eq_iff.mp step).of_proper proper
        rw [locateFrom_of_reaches step, locateFrom] at located
        obtain rfl := Except.ok.inj located
        exact ⟨rfl, searchable, short, node, there⟩
    | link target =>
        rw [locateFrom_cons, step] at located
        obtain rfl := Except.ok.inj located
        cases lookupStep_eq_iff.mp step with
        | link searchable _ short there => exact ⟨rfl, searchable, short, _, there⟩

/-- Behind a path without links, the name of an entry that is no link is
kept as it is written. -/
theorem expand_child
    (straight : Straight tree path place)
    {name : String}
    (proper : ProperName name)
    (noNull : name.toList.contains '\x00' = false)
    (noLink : ∃ node, tree.node? (place ++ [name]) = some node ∧ node.isLink = false)
    (pending : List Sighting) (rest : List String) :
    tree.expand false pending path (name :: rest) =
      tree.expand false pending (path.child name) rest := by
  obtain ⟨node, there, isNoLink⟩ := noLink
  cases located : tree.locate false (path.child name) with
  | error error => exact expand_of_reaches (Replaces.skip rfl proper noNull located).eq
  | ok location =>
      obtain ⟨rfl, -⟩ := straight.of_locate_child proper located
      refine expand_of_reaches (Replaces.down proper noNull located ?_).eq
      rw [there]
      exact isNoLink

/-- A link starts, as a path and as a place, where its target says. -/
theorem pathFor (straight : Straight tree path place) (target : String) :
    Straight tree (FileTree.pathFor target path) (startFor target place) := by
  rw [FileTree.pathFor, startFor]
  split
  · exact Straight.root
  · exact straight

/-- With a name that is not replaced, a path without links goes on to the place that
the lookup goes on from. -/
theorem goesOn
    (straight : Straight tree path place)
    {name : String} {next : Path} {links : Nat} {behind : List String}
    {reached : Location}
    (step : tree.replacementStep true path name = .reaches next)
    (located : tree.locateFrom true links place (name :: behind) = .ok reached) :
    ∃ there, Straight tree next there ∧
      tree.locateFrom true links there behind = .ok reached := by
  cases replacementStep_eq_iff.mp step with
  | stay silent => exact ⟨place, straight, of_locateFrom_silent silent located⟩
  | up =>
      have searchable := searchable_of_locateFrom (by decide) located
      rw [locateFrom_up searchable] at located
      exact ⟨place.dropLast, straight.up_path searchable, located⟩
  | skip lax _ _ _ => cases lax
  | @down _ location proper _ found noLink =>
      obtain ⟨rfl, searchable, short, node, there⟩ :=
        straight.of_locate_child proper found
      rw [there] at noLink
      have entry : ∃ node, tree.node? (place ++ [name]) = some node ∧
          node.isLink = false :=
        ⟨node, there, noLink⟩
      rw [locateFrom_down searchable proper short entry] at located
      exact ⟨_, straight.down searchable proper short entry, located⟩

end Straight

/-- Where links can be replaced with everything on the way being there, what is
left behind them leads straight to the place that the names lead to, and the
lookup goes on from there. -/
theorem straight_of_expand (pending : List Sighting) (current : Path)
    (names : List String) :
    ∀ path place links behind reached,
      Straight tree current place →
      tree.expand true pending current names = .ok (.settled path) →
      tree.locateFrom true links place (names ++ behind) = .ok reached →
      ∃ there left,
        Straight tree path there ∧ tree.locateFrom true left there behind =
          .ok reached := by
  -- the names behind are carried along, as the target of a link leaves those that
  -- follow the link
  induction pending, current, names using expand_induction tree true with
  | nil pending current =>
      intro path place links behind reached straight settled located
      rw [expand] at settled
      obtain rfl := Expansion.settled.inj (Except.ok.inj settled)
      exact ⟨place, links, straight, located⟩
  | fails pending current name rest failure step =>
      intro path place links behind reached straight settled
      rw [expand_of_fails step] at settled
      cases settled
  | reaches pending current name rest next step onward =>
      intro path place links behind reached straight settled located
      rw [expand_of_reaches step] at settled
      obtain ⟨there, straightNext, onTheWay⟩ := straight.goesOn step located
      exact onward path there links behind reached straightNext settled onTheWay
  | again pending current name rest location target step again =>
      intro path place links behind reached straight settled
      cases expand_ne_settled_of_again step again settled
  | link pending current name rest location target step idle inside onward =>
      intro path place links behind reached straight settled located
      obtain ⟨middle, inTarget, behindIt⟩ := exists_inside_of_link step idle settled
      cases replacementStep_eq_iff.mp step with
      | link proper _ found link =>
          obtain ⟨rfl, searchable, short, -⟩ := straight.of_locate_child proper found
          obtain ⟨left, -, follows⟩ :=
            exists_left_of_link (LooksUp.link searchable proper short link).eq located
          obtain ⟨there, left, straightMiddle, onTheWay⟩ :=
            inside middle _ left (rest ++ behind) reached (straight.pathFor target)
              inTarget follows
          exact onward middle path there left behind reached straightMiddle
            behindIt onTheWay

/-! ## Canonical paths -/

section Canonical

variable {path : Path} {location : Location} {name : String}

theorem home_div_child (path : Path) (name : String) :
    tree.home / path.child name = (tree.home / path).child name := by
  by_cases absolute : path.isAbsolute = true
  · have replaced : tree.home / path = path := if_pos absolute
    have replacedChild : tree.home / path.child name = path.child name :=
      if_pos absolute
    rw [replaced, replacedChild]
  · have joined :
        tree.home / path = ⟨tree.home.anchor, tree.home.names ++ path.names⟩ :=
      if_neg absolute
    have joinedChild : tree.home / path.child name =
        ⟨tree.home.anchor, tree.home.names ++ (path.names ++ [name])⟩ := if_neg absolute
    rw [joined, joinedChild, Path.child, List.append_assoc]

theorem flatten_child_step (path : Path) (name : String) :
    tree.flatten (path.child name) =
      ⟨(tree.flatten path).anchor,
        Path.collapseStep (tree.flatten path).names name⟩ := by
  rw [flatten, Path.absolute, home_div_child, Path.collapse, Path.child,
    List.foldl_append, List.foldl_cons, List.foldl_nil]
  rfl

theorem flatten_child (noDots : name ≠ "..") (path : Path) :
    tree.flatten (path.child name) = (tree.flatten path).child name := by
  rw [flatten_child_step, Path.collapseStep, if_neg noDots]
  rfl

theorem foldl_collapseStep_of_noDots
    {names : List String}
    (noDots : ∀ name ∈ names, name ≠ "..")
    (taken : List String) :
    names.foldl Path.collapseStep taken = taken ++ names := by
  induction names generalizing taken with
  | nil => simp
  | cons name rest inductionHypothesis =>
      rw [List.forall_mem_cons] at noDots
      rw [List.foldl_cons, inductionHypothesis noDots.2, Path.collapseStep,
        if_neg noDots.1, List.append_assoc, List.singleton_append]

/-- The working directory is seen from the root as it is written, without `..`. -/
theorem flatten_here (noDots : ∀ name ∈ tree.workingDirectory, name ≠ "..") :
    tree.flatten Path.here = tree.workingDirectory.path := by
  have joined : tree.home / Path.here = tree.workingDirectory.path :=
    congrArg (Path.mk .root) (List.append_nil tree.workingDirectory)
  rw [flatten, Path.absolute, joined, Path.collapse, Location.path]
  dsimp only
  rw [foldl_collapseStep_of_noDots noDots, List.nil_append]

/-- In a well-formed tree, what stands at the working directory has proper names. -/
theorem WellFormed.flatten_here
    (wellFormed : tree.WellFormed)
    (there : ∃ node, tree.node? tree.workingDirectory = some node) :
    tree.flatten Path.here = tree.workingDirectory.path := by
  refine FileTree.flatten_here fun name member => ?_
  obtain ⟨node, found⟩ := there
  have listed := mem_locations_of_node? (List.ne_nil_of_mem member) found
  exact (wellFormed.proper _ listed name member).2.2

/-- What a path without links is from the root is the place that it leads to, if
something stands there and the working directory, where something stands, is seen
from the root as it is. -/
theorem Straight.flatten_eq_path
    {place : Location}
    (straight : Straight tree path place)
    (home : (∃ node, tree.node? tree.workingDirectory = some node) →
      tree.flatten Path.here = tree.workingDirectory.path)
    (there : ∃ node, tree.node? place = some node) :
    tree.flatten path = place.path := by
  induction straight with
  | root => rfl
  | here => exact home there
  | up _ searchable _ _ inductionHypothesis =>
      obtain ⟨listable, above⟩ := searchable
      rw [flatten_child_step, inductionHypothesis ⟨_, above⟩, Path.collapseStep,
        if_pos rfl]
      rfl
  | down _ searchable proper _ _ inductionHypothesis =>
      obtain ⟨listable, above⟩ := searchable
      rw [flatten_child proper.2.2, inductionHypothesis ⟨_, above⟩]
      rfl

/-- A path without links is written from the root with one separator. -/
theorem Straight.flatten_eq
    {place : Location}
    (straight : Straight tree path place) :
    tree.flatten path = Location.path (tree.flatten path).names := by
  have anchor : (tree.flatten path).anchor = .root := by
    by_cases absolute : path.isAbsolute = true
    · have replaced : tree.home / path = path := if_pos absolute
      have noDouble := straight.anchor_ne
      rw [flatten, Path.absolute, replaced, Path.collapse]
      dsimp only
      rw [Path.isAbsolute, decide_eq_true_eq] at absolute
      cases anchor : path.anchor with
      | root => rfl
      | working => exact absurd anchor absolute
      | doubleRoot => exact absurd anchor noDouble
    · have joined :
          tree.home / path = ⟨tree.home.anchor, tree.home.names ++ path.names⟩ :=
        if_neg absolute
      rw [flatten, Path.absolute, joined]
      rfl
  rw [Location.path, ← anchor]

/-- The links of a path that has a canonical form can be replaced on sight, and what is
left leads straight to where the path leads. -/
theorem exists_straight
    {place : Location}
    (canonical : tree.realLocation path = .ok location)
    (located : tree.locate true path = .ok place) :
    ∃ reached, tree.expandPath false path = .ok (.settled reached) ∧
      Straight tree reached place ∧ tree.flatten reached = location.path := by
  unfold realLocation at canonical
  cases expanded : tree.expandPath true path with
  | error failure => simp [expanded] at canonical
  | ok expansion =>
      rw [expanded] at canonical
      obtain rfl := Except.ok.inj canonical
      unfold expandPath at expanded ⊢
      obtain ⟨failure, failed⟩ | ⟨reached, strict, lax⟩ :=
        tree.expand_strict [] (if path.isAbsolute then ⟨.root, []⟩ else Path.here)
          path.names
      · cases expanded.symm.trans failed
      · obtain rfl := Except.ok.inj (expanded.symm.trans strict)
        have begins : Straight tree (if path.isAbsolute then ⟨.root, []⟩ else Path.here)
            (tree.startOf path) := by
          rw [startOf]
          split
          · exact Straight.root
          · exact Straight.here
        have onTheWay : tree.locateFrom true linkBudget (tree.startOf path)
            (path.names ++ []) =
            .ok place := by
          rw [locate] at located
          split at located
          · cases located
          · rwa [List.append_nil]
        obtain ⟨there, left, straight, last⟩ :=
          straight_of_expand [] _ _ _ _ _ _ _ begins strict onTheWay
        rw [locateFrom] at last
        obtain rfl := Except.ok.inj last
        exact ⟨reached, lax, straight, straight.flatten_eq⟩

/-- Where what is left without links can be looked up, it is the canonical path. -/
theorem realPath_of_located
    {reached : Path} {place : Location}
    (expanded : tree.expandPath false path = .ok (.settled reached))
    (flat : tree.flatten reached = location.path)
    (located : tree.locate true location.path = .ok place) :
    tree.realPath path = .ok location.path := by
  rw [realPath, expanded]
  dsimp only [Expansion.path]
  rw [flat, located]

/-- The canonical path is that of the location, unless it cannot be looked up for
the number of its links. -/
theorem realPath_of_expandPath
    {reached : Path}
    (expanded : tree.expandPath false path = .ok (.settled reached))
    (flat : tree.flatten reached = location.path) :
    tree.realPath path = .ok location.path ∨
      ∃ place, tree.realPath path = .error (.linkLoop place) := by
  rw [realPath, expanded]
  dsimp only [Expansion.path]
  rw [flat]
  split
  · exact Or.inr ⟨_, rfl⟩
  · exact Or.inl rfl

/-- Where all links can be replaced with everything on the way being there, the
canonical path is that of the place that the path leads to. -/
theorem realPath_of_realLocation
    {place : Location}
    (wellFormed : tree.WellFormed)
    (canonical : tree.realLocation path = .ok location)
    (located : tree.locate true path = .ok place)
    (there : ∃ node, tree.node? place = some node) :
    tree.realPath path = .ok place.path ∨
      ∃ stuck, tree.realPath path = .error (.linkLoop stuck) := by
  obtain ⟨reached, expanded, straight, -⟩ := exists_straight canonical located
  exact realPath_of_expandPath expanded
    (straight.flatten_eq_path wellFormed.flatten_here there)

/-- A canonical path for which everything on the way is there is that of its
location. -/
theorem realPath_eq_of_realLocation
    {place : Location} {inner : Path}
    (resolved : tree.realLocation path = .ok location)
    (located : tree.locate true path = .ok place)
    (canonical : tree.realPath path = .ok inner) :
    inner = location.path := by
  obtain ⟨reached, expanded, -, flat⟩ := exists_straight resolved located
  obtain same | ⟨stuck, looping⟩ := realPath_of_expandPath expanded flat
  · exact Except.ok.inj (canonical.symm.trans same)
  · cases looping.symm.trans canonical

/-- In a directory that has a canonical form, the canonical path of a directory is that
of its parent with its name behind it. -/
theorem realPath_child
    {place : Location}
    (canonical : tree.realLocation path = .ok location)
    (located : tree.locate true path = .ok place)
    (proper : ProperName name)
    (directory : tree.isDirectory (path.child name) = .ok true)
    (noLink : tree.isLink (path.child name) = .ok false) :
    tree.realPath (path.child name) = .ok (Location.path (location ++ [name])) ∨
      ∃ place, tree.realPath (path.child name) = .error (.linkLoop place) := by
  obtain ⟨reached, expanded, straight, flat⟩ := exists_straight canonical located
  obtain ⟨noNull, there, found, isDirectory⟩ := leadsTo_eq_true_iff.mp directory
  obtain rfl : there = place ++ [name] :=
    Except.ok.inj
      (found.symm.trans (locate_child_of_directory located proper directory noLink))
  have plain : name.toList.contains '\x00' = false := by
    rw [Path.hasNull, List.any_eq_false] at noNull
    simpa using noNull name (by simp [Path.child])
  have noLinkThere : ∃ node, tree.node? (place ++ [name]) = some node ∧
      node.isLink = false := by
    cases entry : tree.node? (place ++ [name]) with
    | none => simp [entry] at isDirectory
    | some node =>
        rw [entry] at isDirectory
        cases node with
        | file _ _ | link _ => cases isDirectory
        | directory listable searchable => exact ⟨_, rfl, rfl⟩
  have last : tree.expand false [] reached [name] =
      .ok (.settled (reached.child name)) := by
    rw [straight.expand_child proper plain noLinkThere, expand]
  have expandedChild :
      tree.expandPath false (path.child name) =
        .ok (.settled (reached.child name)) := by
    rw [← last]
    exact expand_append [] _ path.names [name] reached expanded
  refine realPath_of_expandPath expandedChild ?_
  rw [flatten_child proper.2.2, flat]
  rfl

end Canonical

end FileTree
end KernelInventory
