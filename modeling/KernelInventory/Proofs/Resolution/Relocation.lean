import KernelInventory.Proofs.FileTree.Exchange
import KernelInventory.Proofs.Resolution.Shape

/-!
# Resolving files that have moved

If the files of a tree are found elsewhere in another tree, then a resolution that
starts from the moved entry file reads the moved files, as long as every `source` line
that it meets leads to where its target has moved and is judged there as before.
-/

namespace KernelInventory
namespace Resolution

/-- A `source` line of files that have moved. -/
def Sourcing.moved (move : Location → Location) (line : Sourcing) : Sourcing :=
  ⟨line.chain.map move, move line.file, line.target⟩

section Follow

variable {tree : FileTree} {settings : Settings} {root : Path} {chain : List Location}
  {text : String}

theorem sourcingsBehind_of_not_follow
    (unfollowed : ∀ target bytes,
      aim tree settings root chain text ≠ .follow target bytes) :
    sourcingsBehind tree settings root chain text = [] := by
  unfold sourcingsBehind
  split
  next followed => exact absurd followed (unfollowed _ _)
  · rfl

theorem target?_outcome_of_not_follow
    {line : Sourcing}
    (unfollowed : ∀ target bytes,
      aim tree settings root line.chain line.target ≠ .follow target bytes) :
    (line.outcome tree settings root).target? = none := by
  unfold Sourcing.outcome
  split
  case h_4 followed => exact absurd followed (unfollowed _ _)
  all_goals rfl

end Follow

section Moved

variable {tree other : FileTree} {settings otherSettings : Settings}
  {root otherRoot : Path} {move : Location → Location}

/-- A target leads to where it has moved, and is selected there if it was before. -/
structure TargetMoves (move : Location → Location) (tree other : FileTree)
    (settings otherSettings : Settings) (root otherRoot : Path)
    (text : String) : Prop where
  leads : FileTree.LeadsAlike move tree other (root / Path.ofString text)
    (otherRoot / Path.ofString text)
  selected : ∀ target, tree.realLocation (root / Path.ofString text) = .ok target →
    selected otherSettings (move target) = selected settings target

variable (files : FileTree.FilesMove move tree other)

include files

/-- What is followed has moved, and has been followed before. -/
theorem TargetMoves.aim_eq_follow_iff
    {text : String}
    (moves : TargetMoves move tree other settings otherSettings root otherRoot text)
    (chain : List Location)
    (moved : Location)
    (bytes : List UInt8) :
    aim other otherSettings otherRoot (chain.map move) text = .follow moved bytes ↔
      ∃ target, aim tree settings root chain text = .follow target bytes ∧
        move target = moved := by
  simp only [Resolution.aim_eq_follow_iff, moves.leads.leads moved]
  constructor
  · rintro ⟨⟨target, found, rfl⟩, chosen, fresh, opened⟩
    rw [moves.selected target found] at chosen
    rw [List.mem_map_of_injective files.injective] at fresh
    rw [moves.leads.openAt_eq_ok_iff files found] at opened
    exact ⟨target, ⟨found, chosen, fresh, opened⟩, rfl⟩
  · rintro ⟨target, ⟨found, chosen, fresh, opened⟩, rfl⟩
    rw [← moves.selected target found] at chosen
    rw [← List.mem_map_of_injective files.injective] at fresh
    rw [← moves.leads.openAt_eq_ok_iff files found] at opened
    exact ⟨⟨target, found, rfl⟩, chosen, fresh, opened⟩

/-- A target is followed to where it has moved, or neither here nor there. -/
theorem TargetMoves.aim_cases
    {text : String}
    (moves : TargetMoves move tree other settings otherSettings root otherRoot text)
    (chain : List Location) :
    (∃ target bytes,
        aim tree settings root chain text = .follow target bytes ∧
          aim other otherSettings otherRoot (chain.map move) text =
            .follow (move target) bytes) ∨
      (∀ target bytes, aim tree settings root chain text ≠ .follow target bytes) ∧
        ∀ moved bytes,
          aim other otherSettings otherRoot (chain.map move) text ≠ .follow moved
            bytes := by
  have follows := moves.aim_eq_follow_iff files chain
  by_cases followed : ∃ target bytes,
    aim tree settings root chain text = .follow target bytes
  · obtain ⟨target, bytes, followed⟩ := followed
    exact Or.inl ⟨target, bytes, followed, (follows _ _).mpr ⟨target, followed, rfl⟩⟩
  · refine Or.inr ⟨fun target bytes here => followed ⟨target, bytes, here⟩, ?_⟩
    intro moved bytes there
    obtain ⟨target, here, -⟩ := (follows moved bytes).mp there
    exact followed ⟨target, bytes, here⟩

/-- A `source` line opens its target where that has moved. -/
theorem TargetMoves.target?_outcome
    {line : Sourcing}
    (moves : TargetMoves move tree other settings otherSettings root otherRoot
      line.target) :
    ((line.moved move).outcome other otherSettings otherRoot).target? =
      ((line.outcome tree settings root).target?).map move := by
  rcases moves.aim_cases files line.chain with
    ⟨target, bytes, here, there⟩ | ⟨here, there⟩
  · have opens : line.outcome tree settings root = .opened target := by
      rw [Sourcing.outcome, here]
    have opensThere : (line.moved move).outcome other otherSettings otherRoot =
        .opened (move target) := by
      rw [Sourcing.outcome, Sourcing.moved, there]
    rw [opens, opensThere]
    rfl
  · rw [target?_outcome_of_not_follow here]
    exact target?_outcome_of_not_follow there

/-- If all targets move, the `source` lines that are processed in a visit are those of
the visit before, in files that have moved. -/
theorem sourcingsIn_moved
    (sameHelp : otherSettings.skipHelp = settings.skipHelp)
    (chain : List Location) {file : Location} {bytes : List UInt8}
    (moves : ∀ line ∈ sourcingsIn tree settings root chain file bytes,
      TargetMoves move tree other settings otherSettings root otherRoot line.target) :
    sourcingsIn other otherSettings otherRoot (chain.map move) (move file) bytes =
      (sourcingsIn tree settings root chain file bytes).map (Sourcing.moved move) := by
  induction chain using @chain_induction tree settings root generalizing file bytes with
  | step chain inductionHypothesis =>
      rw [sourcingsIn_eq] at moves
      rw [sourcingsIn_eq, sourcingsIn_eq, sameHelp, List.map_flatMap]
      refine List.flatMap_congr fun text source => ?_
      have within : ∀ line ∈
            ⟨chain, file, text⟩ :: sourcingsBehind tree settings root chain text,
          TargetMoves move tree other settings otherSettings root otherRoot
            line.target :=
        fun line member => moves line (List.mem_flatMap.mpr ⟨text, source, member⟩)
      obtain ⟨here, behind⟩ := List.forall_mem_cons.mp within
      rw [List.map_cons, Sourcing.moved]
      congr 1
      rcases here.aim_cases files chain with
        ⟨target, content, followed, followedThere⟩ | ⟨unfollowed, unfollowedThere⟩
      · have nested : sourcingsBehind tree settings root chain text =
            sourcingsIn tree settings root (target :: chain) target content := by
          rw [sourcingsBehind, followed]
        rw [nested] at behind ⊢
        rw [sourcingsBehind, followedThere]
        exact inductionHypothesis text target content followed behind
      · rw [sourcingsBehind_of_not_follow unfollowed,
          sourcingsBehind_of_not_follow unfollowedThere]
        rfl

/-- The targets that moved `source` lines open are those that the lines opened,
moved. -/
theorem filterMap_target?_moved
    {lines : List Sourcing}
    (moves : ∀ line ∈ lines,
      TargetMoves move tree other settings otherSettings root otherRoot line.target) :
    ((lines.map (Sourcing.moved move)).map
        (Sourcing.outcome other otherSettings otherRoot)).filterMap Outcome.target? =
      ((lines.map (Sourcing.outcome tree settings root)).filterMap Outcome.target?).map
        move := by
  rw [List.map_map, List.filterMap_map, List.filterMap_map, List.map_filterMap]
  exact List.filterMap_congr fun line member =>
    (moves line member).target?_outcome files

end Moved

theorem sourcings_eq
    {tree : FileTree} {settings : Settings} {entry : Path} {file : Location}
    {bytes : List UInt8}
    (located : tree.realLocation entry = .ok file)
    (opened : tree.openAt file = .ok bytes) :
    sourcings tree settings entry =
      sourcingsIn tree settings (chooseRoot tree settings entry).1 [file] file
        bytes := by
  rw [sourcings, openEntry_eq_ok_iff.mpr ⟨located, opened⟩]

/-- What a resolution reads when its files have moved: if its entry file and all targets
that it meets move, then its files are those that it read before, moved. -/
theorem files_moved
    {tree other : FileTree} {settings otherSettings : Settings} {entry spelled : Path}
    {move : Location → Location} {result moved : Result}
    (files : FileTree.FilesMove move tree other)
    (sameHelp : otherSettings.skipHelp = settings.skipHelp)
    (entryMoves : FileTree.LeadsAlike move tree other entry spelled)
    (targetsMove : ∀ line ∈ sourcings tree settings entry,
      TargetMoves move tree other settings otherSettings
        (chooseRoot tree settings entry).1 (chooseRoot other otherSettings spelled).1
          line.target)
    (returned : (run tree settings entry).1 = .ok result)
    (returnedThere : (run other otherSettings spelled).1 = .ok moved) :
    moved.files = result.files.map fun file => Location.path (move file.names) := by
  obtain ⟨file, bytes, located, opened, listed, -⟩ := result_of_sourcings returned
  obtain ⟨fileThere, bytesThere, locatedThere, openedThere, listedThere, -⟩ :=
    result_of_sourcings returnedThere
  obtain ⟨_, found, rfl⟩ := (entryMoves.leads fileThere).mp locatedThere
  obtain rfl := Except.ok.inj (located.symm.trans found)
  rw [entryMoves.openAt_eq_ok_iff files located] at openedThere
  obtain rfl := Except.ok.inj (opened.symm.trans openedThere)
  rw [sourcings_eq located opened] at targetsMove
  have lines := sourcingsIn_moved files sameHelp [file] targetsMove
  rw [List.map_singleton] at lines
  rw [listedThere, listed, lines, filterMap_target?_moved files targetsMove,
    List.map_cons, List.map_map, List.map_map]
  rfl

end Resolution
end KernelInventory
