import KernelInventory.Proofs.FileTree.Outline
import KernelInventory.Proofs.Resolution.Visit
import KernelInventory.Proofs.Stanza.Pruning
import KernelInventory.Proofs.Text.Lines
import KernelInventory.Proofs.Text.Utf8

/-!
# Resolving without help

To skip help in a resolution is to resolve the tree in which the comments and the
help of every file have been deleted.  Nothing but the contents of files differs
between the two trees, so that both resolutions find the same targets, and every file
has the same entries in both.
-/

namespace KernelInventory

open Resolution (linesOf)

namespace Node

/-- What is left of a node when the comments and the help of files are deleted. -/
inductive Pruned : Node → Node → Prop
  | file {bytes left : List UInt8} (readable : Bool) :
      linesOf left = Stanza.pruned (linesOf bytes) →
      Pruned (.file bytes readable) (.file left readable)
  | link (target : String) : Pruned (.link target) (.link target)
  | directory (listable searchable : Bool) :
      Pruned (.directory listable searchable) (.directory listable searchable)

/-- Delete the comments and the help of a file; every line that is left ends in a line
feed. -/
def prune : Node → Node
  | .file bytes readable =>
    .file (Text.Utf8.encode (Text.writeLines (Stanza.pruned (linesOf bytes)))) readable
  | node => node

theorem pruned_prune (node : Node) : Pruned node node.prune := by
  cases node with
  | file bytes readable =>
      apply Pruned.file
      rw [linesOf, Text.Utf8.decode_encode]
      apply Text.lines_writeLines
      intro line member
      exact Text.unbroken_of_mem_lines ((Stanza.prunedFrom_sublist _ _).subset member)
  | link target => exact Pruned.link target
  | directory listable searchable => exact Pruned.directory listable searchable

end Node

namespace FileTree

/-- A tree is left of another one when the comments and the help of all files are
deleted. -/
structure Pruned (tree left : FileTree) : Prop where
  workingDirectory : tree.workingDirectory = left.workingDirectory
  nodes : ∀ location, Option.Rel Node.Pruned (tree.node? location) (left.node? location)

/-- Delete the comments and the help of all files. -/
def prune (tree : FileTree) : FileTree :=
  { tree with entries := tree.entries.map fun entry => (entry.1, entry.2.prune) }

theorem node?_prune (tree : FileTree) (location : Location) :
    tree.prune.node? location = (tree.node? location).map Node.prune := by
  by_cases root : location = []
  · subst root
    rfl
  · rw [node?, node?, if_neg root, if_neg root]
    exact lookup_map tree.entries (fun _ => Node.prune) location

theorem pruned_prune (tree : FileTree) : tree.Pruned tree.prune where
  workingDirectory := rfl
  nodes := by
    intro location
    rw [node?_prune]
    cases tree.node? location with
    | none => exact Option.Rel.none
    | some node => exact Option.Rel.some node.pruned_prune

namespace Pruned

variable {tree left : FileTree}

theorem sameOutline (pruned : tree.Pruned left) : tree.SameOutline left where
  workingDirectory := pruned.workingDirectory
  nodes := by
    intro location
    have nodes := pruned.nodes location
    generalize tree.node? location = node at nodes ⊢
    generalize left.node? location = other at nodes ⊢
    cases nodes with
    | none => rfl
    | some node => cases node <;> rfl

/-- What is read of a file that can be read is what is left of it; the others cannot be
read for the same reason. -/
theorem readAt (pruned : tree.Pruned left) (location : Location) :
    (∃ bytes content,
      tree.readAt location = .ok bytes ∧ left.readAt location = .ok content ∧
        linesOf content = Stanza.pruned (linesOf bytes)) ∨
      ∃ error, tree.readAt location = .error error ∧
        left.readAt location = .error error := by
  have nodes := pruned.nodes location
  unfold FileTree.readAt
  generalize tree.node? location = node at nodes ⊢
  generalize left.node? location = other at nodes ⊢
  cases nodes with
  | none => exact Or.inr ⟨_, rfl, rfl⟩
  | some node =>
      cases node with
      | file readable lines =>
          cases readable with
          | true => exact Or.inl ⟨_, _, rfl, rfl, lines⟩
          | false => exact Or.inr ⟨_, rfl, rfl⟩
      | link target => exact Or.inr ⟨_, rfl, rfl⟩
      | directory listable searchable => exact Or.inr ⟨_, rfl, rfl⟩

/-- A file is opened in both trees or in neither, for the same reason. -/
theorem openAt (pruned : tree.Pruned left) (location : Location) :
    (∃ bytes content,
      tree.openAt location = .ok bytes ∧ left.openAt location = .ok content ∧
        linesOf content = Stanza.pruned (linesOf bytes)) ∨
      ∃ error, tree.openAt location = .error error ∧
        left.openAt location = .error error := by
  unfold FileTree.openAt
  rw [pruned.sameOutline.locate_eq]
  cases left.locate true location.path with
  | error error => exact Or.inr ⟨error, rfl, rfl⟩
  | ok place => exact pruned.readAt location

end Pruned
end FileTree

namespace Resolution

/-- The same settings, with help skipped or not. -/
def Settings.skipping (settings : Settings) (skip : Bool) : Settings :=
  { settings with skipHelp := skip }

variable {tree left : FileTree} {settings : Settings}

/-- The same is done about a target in both trees, and of a target that is followed the
right lines are left. -/
theorem aim_pruned
    (pruned : tree.Pruned left)
    (root : Path) (chain : List Location) (text : String) :
    (∃ target bytes content,
      aim tree (settings.skipping true) root chain text = .follow target bytes ∧
        aim left (settings.skipping false) root chain text = .follow target content ∧
        linesOf content = Stanza.pruned (linesOf bytes)) ∨
      (∀ target bytes, aim tree (settings.skipping true) root chain text ≠
        .follow target bytes) ∧
        aim left (settings.skipping false) root chain text =
          aim tree (settings.skipping true) root chain text := by
  have sameChoice : ∀ target, selected (settings.skipping false) target =
      selected (settings.skipping true) target := fun _ => rfl
  have aimed := aims tree (settings.skipping true) root chain text
  generalize aim tree (settings.skipping true) root chain text = done at aimed
  have sameFound := pruned.sameOutline.realLocation_eq (root / Path.ofString text)
  cases aimed with
  | fault found => exact .inr ⟨nofun, (Aims.fault (sameFound ▸ found)).eq⟩
  | unresolved found proper =>
      exact .inr ⟨nofun, (Aims.unresolved (sameFound ▸ found) proper).eq⟩
  | filtered found unselected =>
      exact .inr ⟨nofun, (Aims.filtered (sameFound ▸ found) unselected).eq⟩
  | cycle found chosen member =>
      exact .inr ⟨nofun, (Aims.cycle (sameFound ▸ found) chosen member).eq⟩
  | @locked target error found chosen fresh denied =>
      rcases pruned.openAt target with ⟨bytes, content, here, -⟩ | ⟨other, here, there⟩
      · cases here.symm.trans denied
      · obtain rfl := Except.error.inj (here.symm.trans denied)
        exact .inr ⟨nofun, (Aims.locked (sameFound ▸ found) chosen fresh there).eq⟩
  | @follow target bytes found chosen fresh opened =>
      rcases pruned.openAt target with ⟨_, content, here, there, lines⟩ |
        ⟨error, here, there⟩
      · obtain rfl := Except.ok.inj (here.symm.trans opened)
        have aimed := Aims.follow (sameFound ▸ found) chosen fresh there
        exact .inl ⟨target, _, content, rfl, aimed.eq, lines⟩
      · cases here.symm.trans opened

/-- The same happens in a visit that skips help and in one of what is left without
it. -/
theorem visit_pruned
    (pruned : tree.Pruned left)
    (root : Path) (chain : List Location) (file : Location) {bytes content : List UInt8}
    (lines : linesOf content = Stanza.pruned (linesOf bytes)) :
    visit tree (settings.skipping true) root chain file bytes =
      visit left (settings.skipping false) root chain file content := by
  induction chain using @chain_induction tree (settings.skipping true) root
    generalizing file bytes content with
  | step chain inductionHypothesis =>
      have entries : Stanza.entries (settings.skipping true).skipHelp (linesOf bytes) =
          Stanza.entries (settings.skipping false).skipHelp (linesOf content) := by
        rw [lines]
        exact Stanza.entries_pruned (linesOf bytes)
      rw [visit_eq_entries, visit_eq_entries, entries]
      congr 1
      apply List.flatMap_congr
      intro said _
      cases said with
      | effect change => rfl
      | source text =>
          rw [entryEvents, entryEvents, sourceEvents, sourceEvents]
          rcases aim_pruned pruned root chain text with
            ⟨target, inside, insideLeft, followed, followedLeft, left⟩ |
              ⟨notFollowed, same⟩
          · rw [followed, followedLeft]
            dsimp only
            rw [inductionHypothesis text target inside followed target left]
          · rw [same]
            cases aimed : aim tree (settings.skipping true) root chain text with
            | follow target bytes => exact absurd aimed (notFollowed target bytes)
            | filtered _ | skipped _ | locked _ _ | fault _ => rfl

theorem chooseRoot_pruned (pruned : tree.Pruned left) (entry : Path) :
    chooseRoot tree (settings.skipping true) entry =
      chooseRoot left (settings.skipping false) entry := by
  have home : tree.home = left.home := congrArg Location.path pruned.workingDirectory
  rw [chooseRoot, chooseRoot, findKernelRoot, findKernelRoot, home]
  rfl

theorem run_pruned (pruned : tree.Pruned left) (entry : Path) :
    run tree (settings.skipping true) entry = run left (settings.skipping false)
      entry := by
  unfold run openEntry
  rw [chooseRoot_pruned pruned, pruned.sameOutline.realLocation_eq]
  cases left.realLocation entry with
  | error failure => rfl
  | ok file =>
      rcases pruned.openAt file with ⟨bytes, content, here, there, lines⟩ |
        ⟨error, here, there⟩
      · simp only [here, there, visit_pruned pruned _ _ _ lines]
      · simp only [here, there]

/-- To skip help is to resolve what is left of the tree without comments and help:
the outcome is the same, with everything in it, and so is the log.  Such a tree can
be made of every tree. -/
theorem skipping_help_is_pruning (tree : FileTree) (settings : Settings)
    (entry : Path) :
    (∀ left, tree.Pruned left →
      run tree (settings.skipping true) entry =
        run left (settings.skipping false) entry) ∧
      tree.Pruned tree.prune :=
  ⟨fun _ pruned => run_pruned pruned entry, tree.pruned_prune⟩

/-- What is left of two files is left of the directory with both. -/
theorem pruned_twoFiles
    {outer inner outerLeft innerLeft : List UInt8}
    (outerLines : linesOf outerLeft = Stanza.pruned (linesOf outer))
    (innerLines : linesOf innerLeft = Stanza.pruned (linesOf inner)) :
    (twoFiles outer inner).Pruned (twoFiles outerLeft innerLeft) where
  workingDirectory := rfl
  nodes := by
    intro location
    by_cases root : location = []
    · subst root
      exact Option.Rel.some (Node.Pruned.directory true true)
    · simp only [FileTree.node?, if_neg root, twoFiles, List.lookup_cons,
        List.lookup_nil]
      cases location == ["k"] with
      | true => exact Option.Rel.some (Node.Pruned.directory true true)
      | false =>
          cases location == ["k", "out"] with
          | true => exact Option.Rel.some (Node.Pruned.file true outerLines)
          | false =>
              cases location == ["k", "in"] with
              | true => exact Option.Rel.some (Node.Pruned.file true innerLines)
              | false => exact Option.Rel.none

/-- A file with keywords in its help, and what is left of it. -/
theorem skipping_help_is_pruning_keywords :
    run
        (twoFiles
          (Text.Utf8.encode
            "config A\n\thelp\n\t  config B\n\n\t  source \"in\"\n\tbool\n#\nsource \"in\"".toList)
          innerBytes)
        (nestedSettings.skipping true) ⟨.working, ["out"]⟩ =
      run
        (twoFiles (Text.Utf8.encode "config A\n\n\tbool\nsource \"in\"\n".toList)
          innerBytes)
        (nestedSettings.skipping false) ⟨.working, ["out"]⟩ :=
  (skipping_help_is_pruning _ nestedSettings ⟨.working, ["out"]⟩).1 _
    (pruned_twoFiles rfl rfl)

end Resolution
end KernelInventory
