import KernelInventory.Proofs.FileTree.Linkless
import KernelInventory.Proofs.Resolution.Relocation

/-!
# The architecture part of a tree, wherever the tree stands

Whether a target lies in the architecture part is read off its canonical path as a
whole, the directories above the kernel tree included.  If none of these is named
`arch`, then a target in the kernel tree is followed only if a directory of this
name stands above it within the tree, and where the tree stands makes no
difference.  In a kernel tree that stands below a directory `arch`, every target
lies in the architecture part.
-/

namespace KernelInventory
namespace Resolution

/-- No name that a resolution starts from holds a separator. -/
structure Written (tree : FileTree) (settings : Settings) (entry : Path) : Prop where
  home : Unslashed tree.workingDirectory
  entry : Unslashed entry.names
  root : ∀ root ∈ settings.kernelRoot, Unslashed root.names

/-- Only targets in the architecture part are followed, marked by the directory
`arch`. -/
structure Settings.KeepsToArch (settings : Settings) : Prop where
  selective : settings.includeAll = false
  marker : settings.archMarker = "/arch/"

namespace Written

variable {tree : FileTree} {settings : Settings} {entry : Path}

theorem chooseRoot (written : Written tree settings entry) :
    Unslashed (chooseRoot tree settings entry).1.names := by
  have whole : Unslashed (entry.absolute tree.home).names :=
    Path.unslashed_div written.home written.entry
  unfold Resolution.chooseRoot
  split
  next root found =>
    cases given : settings.kernelRoot with
    | some explicit =>
        rw [given] at found
        obtain rfl := Option.some.inj found
        exact written.root _ given
    | none =>
        rw [given] at found
        obtain ⟨count, -, rfl⟩ := List.mem_map.mp (List.mem_of_find?_eq_some found)
        exact whole.subset (List.take_subset _ _)
  · exact whole.subset (List.dropLast_subset _)

/-- The canonical path of a target has no name that holds a separator. -/
theorem target
    (written : Written tree settings entry)
    {text : String} {target : Location}
    (found :
      tree.realLocation
        ((Resolution.chooseRoot tree settings entry).1 / Path.ofString text) =
        .ok target) :
    Unslashed target :=
  FileTree.unslashed_realLocation written.home
    (Path.unslashed_div written.chooseRoot (Path.unslashed_ofString text)) found

end Written

/-- A target is selected exactly if one of the directories above it is named `arch`. -/
theorem Settings.KeepsToArch.selected_iff
    {settings : Settings}
    (keeps : settings.KeepsToArch)
    {target : Location}
    (unslashed : Unslashed target) :
    selected settings target = true ↔ "arch" ∈ target.dropLast := by
  have solid : '/' ∉ "arch".toList := by
    decide
  rw [selected, keeps.selective, Bool.false_or, keeps.marker]
  exact Location.contains_between_iff solid unslashed

/-- The same settings with another directory that targets are found from. -/
def Settings.rootedAt (settings : Settings) (root : Option Path) : Settings :=
  { settings with kernelRoot := root }

section Checkout

variable {tree : FileTree} {settings : Settings} {entry : Path} {result : Result}
  {base : Location}

/-- What stands at `base` is moved to `place`, and resolved there: the entry file and
the targets lead to the files that they led to before, wherever these are now. -/
structure CheckoutMoves (tree : FileTree) (settings : Settings) (entry : Path)
    (base place : Location) (root : Option Path) (spelled : Path) : Prop where
  apart : Location.Apart base place
  unslashed : Unslashed place
  start : FileTree.LeadsAlike (Location.exchange base place) tree
    (tree.exchange base place) entry spelled
  targets : ∀ line ∈ sourcings tree settings entry,
    FileTree.LeadsAlike (Location.exchange base place) tree (tree.exchange base place)
      ((chooseRoot tree settings entry).1 / Path.ofString line.target)
      ((chooseRoot (tree.exchange base place) (settings.rootedAt root) spelled).1 /
        Path.ofString line.target)

/-- Moving a checkout between places none of whose names is `arch` moves every target,
and no target is selected in one place only. -/
theorem CheckoutMoves.targetMoves
    {place : Location} {root : Option Path} {spelled : Path}
    (moves : CheckoutMoves tree settings entry base place root spelled)
    (written : Written tree settings entry)
    (keeps : settings.KeepsToArch)
    (unslashed : Unslashed base)
    (outside : "arch" ∉ base)
    (outsideThere : "arch" ∉ place)
    {line : Sourcing}
    (member : line ∈ sourcings tree settings entry) :
    TargetMoves (Location.exchange base place) tree (tree.exchange base place) settings
      (settings.rootedAt root) (chooseRoot tree settings entry).1
      (chooseRoot (tree.exchange base place) (settings.rootedAt root) spelled).1
        line.target where
  leads := moves.targets line member
  selected := by
    intro target found
    have unslashedTarget := written.target found
    have unslashedThere :=
      Location.unslashed_exchange moves.apart unslashed moves.unslashed unslashedTarget
    have keepsThere : (settings.rootedAt root).KeepsToArch :=
      ⟨keeps.selective, keeps.marker⟩
    rw [Bool.eq_iff_iff, keepsThere.selected_iff unslashedThere,
      keeps.selected_iff unslashedTarget,
      Location.mem_dropLast_exchange_iff moves.apart outside outsideThere]

/-- A target is written from the kernel root down, and its path is short
enough below two roots. -/
structure WrittenBelow (base place : Location) (text : String) : Prop where
  relative : (Path.ofString text).isAbsolute = false
  noDots : ".." ∉ (Path.ofString text).names
  short : FileTree.Short (base ++ (Path.ofString text).names)
  shortThere : FileTree.Short (place ++ (Path.ofString text).names)

namespace WrittenBelow

variable {place : Location} {text : String}

theorem proper (written : WrittenBelow base place text) :
    ∀ name ∈ (Path.ofString text).names, ProperName name := by
  intro name member
  obtain ⟨nonempty, noDot⟩ := of_decide_eq_true (List.mem_filter.mp member).2
  refine ⟨nonempty, noDot, ?_⟩
  rintro rfl
  exact written.noDots member

theorem div_eq (written : WrittenBelow base place text) (root : Location) :
    Location.path root / Path.ofString text =
      Location.path (root ++ (Path.ofString text).names) :=
  if_neg (Bool.eq_false_iff.mp written.relative)

end WrittenBelow

/-- A checkout without links moves with all its targets, if directories lead to both
places and the targets are written from its root down. -/
theorem CheckoutMoves.of_linkless
    {place start : Location}
    (apart : Location.Apart base place)
    (unslashed : Unslashed place)
    (reached : tree.Reached base)
    (reachedThere : (tree.exchange base place).Reached place)
    (noLink : ∀ below target, tree.node? (base ++ below) ≠ some (.link target))
    (rooted : (chooseRoot tree settings (Location.path (base ++ start))).1 =
      Location.path base)
    (proper : ∀ name ∈ start, ProperName name)
    (short : FileTree.Short (base ++ start))
    (shortThere : FileTree.Short (place ++ start))
    (targets : ∀ line ∈ sourcings tree settings (Location.path (base ++ start)),
      WrittenBelow base place line.target) :
    CheckoutMoves tree settings (Location.path (base ++ start)) base place
      (some (Location.path place)) (Location.path (place ++ start)) where
  apart := apart
  unslashed := unslashed
  start :=
    FileTree.leadsAlike_exchange apart reached reachedThere
      (fun front _ => noLink front) proper short shortThere
  targets := by
    intro line member
    have written := targets line member
    have rootedThere : (chooseRoot (tree.exchange base place)
        (settings.rootedAt (some (Location.path place)))
        (Location.path (place ++ start))).1 =
          Location.path place := rfl
    rw [rooted, rootedThere, written.div_eq, written.div_eq]
    exact FileTree.leadsAlike_exchange apart reached reachedThere
      (fun front _ => noLink front) written.proper written.short written.shortThere

/-- If no directory on the way to the kernel root is named `arch`, nor the root itself,
then every file behind the first one that lies below the root has a directory of this
name above it and below the root, for exactly these targets below the root are selected.
So it makes no difference to the files that are read if the kernel tree is moved to
another place of this kind. -/
theorem arch_files_below_root
    (written : Written tree settings entry)
    (keeps : settings.KeepsToArch)
    (returned : (run tree settings entry).1 = .ok result)
    (rooted : tree.realLocation (chooseRoot tree settings entry).1 = .ok base)
    (outside : "arch" ∉ base) :
    (∀ below, Location.path (base ++ below) ∈ result.files.tail →
      "arch" ∈ below.dropLast) ∧
      (∀ below, Unslashed below →
        (selected settings (base ++ below) = true ↔ "arch" ∈ below.dropLast)) ∧
      ∀ place root spelled moved,
        CheckoutMoves tree settings entry base place root spelled → "arch" ∉ place →
        (run (tree.exchange base place) (settings.rootedAt root) spelled).1 =
          .ok moved →
          moved.files =
            result.files.map fun file =>
              Location.path (Location.exchange base place file.names) := by
  have unslashed :=
    FileTree.unslashed_realLocation written.home written.chooseRoot rooted
  refine ⟨fun below member => ?_, fun below unslashedBelow => ?_, ?_⟩
  · obtain ⟨file, bytes, -, -, files, -⟩ := result_of_sourcings returned
    rw [files, List.tail_cons] at member
    obtain ⟨target, targetMember, same⟩ := List.mem_map.mp member
    obtain rfl : target = base ++ below := congrArg Path.names same
    obtain ⟨line, -, opened⟩ := exists_opened_of_mem_targets targetMember
    obtain ⟨_, followed⟩ := follow_of_outcome opened
    obtain ⟨found, chosen, -⟩ := aim_eq_follow_iff.mp followed
    have above := (keeps.selected_iff (written.target found)).mp chosen
    exact (Location.mem_dropLast_append_iff outside below).mp above
  · rw [keeps.selected_iff (unslashed.append unslashedBelow),
      Location.mem_dropLast_append_iff outside]
  · intro place root spelled moved moves outsideThere returnedThere
    have sameHelp : (settings.rootedAt root).skipHelp = settings.skipHelp := rfl
    exact files_moved (FileTree.filesMove_exchange tree moves.apart) sameHelp
      moves.start (fun line member =>
        moves.targetMoves written keeps unslashed outside outsideThere member)
      returned returnedThere

end Checkout

/-! ## A checkout in three places -/

/-- A file that sources one file in the architecture part and one outside. -/
def checkoutBytes : List UInt8 :=
  Text.Utf8.encode "source \"arch/y\"\nsource \"z\"\n".toList

/-- A checkout, and two directories that it can be moved into. -/
def checkoutTree : FileTree :=
  ⟨["k"], [(["m"], .openDirectory), (["arch"], .openDirectory), (["k"], .openDirectory),
    (["k", "arch"], .openDirectory), (["k", "arch", "x"], .file checkoutBytes true),
    (["k", "arch", "y"], .file [] true), (["k", "z"], .file [] true)]⟩

/-- The path of the file in the checkout that is resolved. -/
def checkoutEntry (place : Location) : Path :=
  Location.path (place ++ ["arch", "x"])

/-- The checkout stands at a place. -/
structure HoldsCheckout (tree : FileTree) (place : Location) : Prop where
  start : tree.realLocation (checkoutEntry place) = .ok (place ++ ["arch", "x"])
  marked : tree.realLocation (place.path / Path.ofString "arch/y") =
    .ok (place ++ ["arch", "y"])
  other : tree.realLocation (place.path / Path.ofString "z") = .ok (place ++ ["z"])
  openStart : tree.openAt (place ++ ["arch", "x"]) = .ok checkoutBytes
  openMarked : tree.openAt (place ++ ["arch", "y"]) = .ok []
  openOther : tree.openAt (place ++ ["z"]) = .ok []

/-- What happens when the checkout is resolved, depending on whether the
other file is followed. -/
def checkoutEvents (place : Location) (follows : Bool) : List Event :=
  [.opened (place ++ ["arch", "x"]),
    .entering (place ++ ["arch", "y"]) (place ++ ["arch", "x"]),
    .opened (place ++ ["arch", "y"]), .finished (place ++ ["arch", "y"])] ++
    if follows then
      [.entering (place ++ ["z"]) (place ++ ["arch", "x"]), .opened (place ++ ["z"]),
        .finished (place ++ ["z"])]
    else [.filtered (place ++ ["z"])]

/-- The checkout is resolved from its root. -/
def checkoutSettings (place : Location) : Settings where
  version := "1"
  kernelRoot := some place.path

namespace HoldsCheckout

variable {tree : FileTree} {place : Location}

theorem run_eq
    (holds : HoldsCheckout tree place)
    (chosen : selected (checkoutSettings place) (place ++ ["arch", "y"]) = true) :
    (run tree (checkoutSettings place) (checkoutEntry place)).1 =
      .ok (Result.ofEvents
        (checkoutEvents place
          (selected (checkoutSettings place) (place ++ ["z"])))) := by
  have followed : aim tree (checkoutSettings place) place.path [place ++ ["arch", "x"]]
      "arch/y" =
      .follow (place ++ ["arch", "y"]) [] :=
    aim_eq_follow_iff.mpr ⟨holds.marked, chosen, by simp, holds.openMarked⟩
  have other : aim tree (checkoutSettings place) place.path
      [place ++ ["arch", "x"]] "z" =
      if selected (checkoutSettings place) (place ++ ["z"]) then .follow
        (place ++ ["z"]) []
      else .filtered (place ++ ["z"]) := by
    cases choice : selected (checkoutSettings place) (place ++ ["z"]) with
    | true =>
        exact aim_eq_follow_iff.mpr ⟨holds.other, choice, by simp, holds.openOther⟩
    | false => exact (Aims.filtered holds.other choice).eq
  have entries : Stanza.entries false (linesOf checkoutBytes) =
      [.source "arch/y", .source "z"] := by
    rfl
  have noEntries : Stanza.entries false (linesOf []) = [] := by
    rfl
  have visited : visit tree (checkoutSettings place) place.path [place ++ ["arch", "x"]]
      (place ++ ["arch", "x"]) checkoutBytes =
        checkoutEvents place (selected (checkoutSettings place) (place ++ ["z"])) := by
    have noSkip : (checkoutSettings place).skipHelp = false := rfl
    rw [visit_eq_entries, noSkip, entries]
    simp only [List.flatMap_cons, List.flatMap_nil, entryEvents, sourceEvents,
      followed, other, visit_eq_entries, noSkip, noEntries]
    cases selected (checkoutSettings place) (place ++ ["z"]) with
    | true => simp [noEntries, checkoutEvents]
    | false => simp [checkoutEvents]
  have opened : openEntry tree (checkoutEntry place) =
      .ok (place ++ ["arch", "x"], checkoutBytes) :=
    openEntry_eq_ok_iff.mpr ⟨holds.start, holds.openStart⟩
  have faultless : ∀ follows, ∀ event ∈ checkoutEvents place follows,
      event.fault? = none := by
    intro follows
    cases follows <;> simp [checkoutEvents, Event.fault?]
  have rooted : (chooseRoot tree (checkoutSettings place) (checkoutEntry place)).1 =
      place.path := rfl
  rw [run_eq_ok_iff]
  refine ⟨_, checkoutBytes, opened, ?_, ?_⟩
  · rw [rooted, visited]
    exact faultless _
  · rw [rooted, visited]

/-- The two targets are all that a resolution of the checkout meets. -/
theorem target_of_mem_sourcings
    (holds : HoldsCheckout tree place)
    {line : Sourcing}
    (member : line ∈ sourcings tree (checkoutSettings place) (checkoutEntry place)) :
    line.target = "arch/y" ∨ line.target = "z" := by
  have rooted : (chooseRoot tree (checkoutSettings place) (checkoutEntry place)).1 =
      place.path := rfl
  have sources : Stanza.sources (checkoutSettings place).skipHelp
      (linesOf checkoutBytes) =
      ["arch/y", "z"] := by
    rfl
  have sourceless : Stanza.sources (checkoutSettings place).skipHelp
      (linesOf []) = [] := by
    rfl
  have nothingBehind {chain : List Location} {text : String} {target : Location}
      (found : tree.realLocation (place.path / Path.ofString text) = .ok target)
      (empty : tree.openAt target = .ok []) :
      sourcingsBehind tree (checkoutSettings place) place.path chain text = [] := by
    unfold sourcingsBehind
    split
    next _ content followed =>
      obtain ⟨foundAgain, -, -, opened⟩ := aim_eq_follow_iff.mp followed
      obtain rfl := Except.ok.inj (found.symm.trans foundAgain)
      obtain rfl := Except.ok.inj (empty.symm.trans opened)
      rw [sourcingsIn_eq, sourceless, List.flatMap_nil]
    · rfl
  rw [sourcings_eq holds.start holds.openStart, rooted, sourcingsIn_eq,
    sources] at member
  simp only [List.flatMap_cons, List.flatMap_nil, List.append_nil,
    List.singleton_append, nothingBehind holds.marked holds.openMarked,
    nothingBehind holds.other holds.openOther, List.mem_cons, List.not_mem_nil,
    or_false] at member
  rcases member with rfl | rfl
  · exact Or.inl rfl
  · exact Or.inr rfl

end HoldsCheckout

theorem holdsCheckout : HoldsCheckout checkoutTree ["k"] := by
  constructor
  all_goals cbv

theorem reached_checkout : checkoutTree.Reached ["k"] where
  leads := ⟨by decide, rfl, trivial⟩
  linkless front _ := FileTree.node?_ne_link (by decide) front
  proper := by
    simp [ProperName]

section Parents

variable {parent : String} (known : parent = "m" ∨ parent = "arch")

include known

theorem reached_moved :
    (checkoutTree.exchange ["k"] [parent, "k"]).Reached [parent, "k"] where
  leads := by
    rcases known with rfl | rfl
    · exact ⟨by decide, rfl, by decide, rfl, trivial⟩
    · exact ⟨by decide, rfl, by decide, rfl, trivial⟩
  linkless front _ := by
    refine FileTree.node?_ne_link ?_ front
    rcases known with rfl | rfl
    · decide
    · decide
  proper := by
    rcases known with rfl | rfl
    · simp [ProperName]
    · simp [ProperName]

theorem writtenBelow_checkout {text : String} (target : text = "arch/y" ∨ text = "z") :
    WrittenBelow ["k"] [parent, "k"] text := by
  rcases known with rfl | rfl <;> rcases target with rfl | rfl <;>
    exact ⟨by decide, by decide, by decide, by decide⟩

/-- The checkout can be moved into each of the two directories. -/
theorem checkoutMoves_checkout :
    CheckoutMoves checkoutTree (checkoutSettings ["k"]) (checkoutEntry ["k"]) ["k"]
      [parent, "k"] (some (Location.path [parent, "k"]))
      (checkoutEntry [parent, "k"]) := by
  have apart : Location.Apart ["k"] [parent, "k"] := by
    rcases known with rfl | rfl
    · exact ⟨by decide, by decide⟩
    · exact ⟨by decide, by decide⟩
  have unslashed : Unslashed [parent, "k"] := by
    rcases known with rfl | rfl
    · decide
    · decide
  have shortThere : FileTree.Short ([parent, "k"] ++ ["arch", "x"]) := by
    rcases known with rfl | rfl
    · decide
    · decide
  refine CheckoutMoves.of_linkless apart unslashed reached_checkout
    (reached_moved known)
    (fun below => FileTree.node?_ne_link (by decide) _) rfl (by simp [ProperName])
    (by decide)
    shortThere ?_
  intro line member
  exact writtenBelow_checkout known (holdsCheckout.target_of_mem_sourcings member)

end Parents

theorem written_checkout : Written checkoutTree (checkoutSettings ["k"])
    (checkoutEntry ["k"]) :=
  ⟨by decide, by decide, by decide⟩

theorem run_checkout :
    (run checkoutTree (checkoutSettings ["k"]) (checkoutEntry ["k"])).1 =
      .ok (Result.ofEvents (checkoutEvents ["k"] false)) :=
  holdsCheckout.run_eq rfl

theorem run_checkout_m :
    (run (checkoutTree.exchange ["k"] ["m", "k"]) (checkoutSettings ["m", "k"])
        (checkoutEntry ["m", "k"])).1 =
      .ok (Result.ofEvents (checkoutEvents ["m", "k"] false)) := by
  refine HoldsCheckout.run_eq ?_ rfl
  constructor
  all_goals cbv

theorem run_checkout_arch :
    (run (checkoutTree.exchange ["k"] ["arch", "k"]) (checkoutSettings ["arch", "k"])
        (checkoutEntry ["arch", "k"])).1 =
      .ok (Result.ofEvents (checkoutEvents ["arch", "k"] true)) := by
  refine HoldsCheckout.run_eq ?_ rfl
  constructor
  all_goals cbv

/-- Only the file below `arch` is followed, before and after the checkout is moved. -/
theorem arch_files_below_root_checkout :
    (run checkoutTree (checkoutSettings ["k"]) (checkoutEntry ["k"])).1 =
        .ok (Result.ofEvents (checkoutEvents ["k"] false)) ∧
      (Result.ofEvents (checkoutEvents ["k"] false)).files.tail =
        [Location.path ["k", "arch", "y"]] ∧
      "arch" ∈ (["arch", "y"] : Location).dropLast ∧
      selected (checkoutSettings ["k"]) ["k", "z"] = false ∧
      (Result.ofEvents (checkoutEvents ["m", "k"] false)).files =
        (Result.ofEvents (checkoutEvents ["k"] false)).files.map fun file =>
          Location.path (Location.exchange ["k"] ["m", "k"] file.names) := by
  have rooted : checkoutTree.realLocation
      (chooseRoot checkoutTree (checkoutSettings ["k"]) (checkoutEntry ["k"])).1 =
        .ok ["k"] := by
    cbv
  have outside : "arch" ∉ ["k"] := by
    decide
  obtain ⟨below, exactly, moving⟩ :=
    arch_files_below_root written_checkout ⟨rfl, rfl⟩ run_checkout rooted outside
  have tail : (Result.ofEvents (checkoutEvents ["k"] false)).files.tail =
      [Location.path ["k", "arch", "y"]] := rfl
  refine ⟨run_checkout, tail, below ["arch", "y"] ?_, ?_, ?_⟩
  · rw [tail]
    exact List.mem_singleton_self _
  · rw [← Bool.not_eq_true]
    exact fun chosen => absurd ((exactly ["z"] (by decide)).mp chosen) (by decide)
  · exact moving ["m", "k"] _ _ _ (checkoutMoves_checkout (Or.inl rfl)) (by decide)
      run_checkout_m

/-- In a checkout below a directory `arch`, files are followed that lie outside
the architecture part of the checkout, and moving a checkout there changes
which files are followed. -/
theorem not_all_files_below_arch :
    (¬ ∀ (tree : FileTree) (settings : Settings) (entry : Path) (result : Result)
      (base : Location), Written tree settings entry → settings.KeepsToArch →
      (run tree settings entry).1 = .ok result →
      tree.realLocation (chooseRoot tree settings entry).1 = .ok base →
        ∀ below, Location.path (base ++ below) ∈ result.files.tail →
        "arch" ∈ below.dropLast) ∧
      ¬ ∀ (tree : FileTree) (settings : Settings) (entry : Path) (result : Result)
          (base place : Location) (root : Option Path) (spelled : Path)
          (moved : Result),
        Written tree settings entry → settings.KeepsToArch →
        (run tree settings entry).1 = .ok result →
        tree.realLocation (chooseRoot tree settings entry).1 = .ok base →
        CheckoutMoves tree settings entry base place root spelled →
        (run (tree.exchange base place) (settings.rootedAt root) spelled).1 =
          .ok moved →
          moved.files =
            result.files.map fun file =>
              Location.path (Location.exchange base place file.names) := by
  constructor
  · intro claimed
    have below := claimed _ _ _ _ ["arch", "k"] ⟨by decide, by decide, by decide⟩
      ⟨rfl, rfl⟩ run_checkout_arch (by cbv) ["z"] (by decide)
    exact absurd below (by decide)
  · intro claimed
    have rooted : checkoutTree.realLocation
        (chooseRoot checkoutTree (checkoutSettings ["k"]) (checkoutEntry ["k"])).1 =
          .ok ["k"] := by
      cbv
    have files :=
      claimed _ _ _ _ _ _ _ _ _ written_checkout ⟨rfl, rfl⟩ run_checkout rooted
        (checkoutMoves_checkout (Or.inr rfl)) run_checkout_arch
    exact absurd files (by decide)

end Resolution
end KernelInventory
