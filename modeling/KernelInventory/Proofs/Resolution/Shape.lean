import KernelInventory.Proofs.Component.Table
import KernelInventory.Proofs.Resolution.Nesting
import KernelInventory.Proofs.Resolution.Sourcing
import KernelInventory.Proofs.Text.Search

/-!
# The shape of a result

The files of a result are the entry file and behind it the targets of the `source`
lines that have been followed, its directories are the parents of these targets, and
its issues come from its files. A directory is noted only when its target has been read
to the end, and a file before its lines are read, so that both are read off what has
become of the `source` lines.
-/

namespace KernelInventory
namespace Resolution

/-- The file that an outcome opens. -/
def Outcome.target? : Outcome → Option Location
  | opened target => some target
  | _ => none

theorem Outcome.file?_eq (outcome : Outcome) :
    outcome.file? = outcome.target?.map Location.path := by
  cases outcome <;> rfl

theorem Outcome.sourceDirectory?_eq (outcome : Outcome) :
    outcome.sourceDirectory? = outcome.target?.map fun target =>
      target.path.parent := by
  cases outcome <;> rfl

theorem Outcome.eq_opened_of_target?
    {outcome : Outcome} {target : Location}
    (isTarget : outcome.target? = some target) :
    outcome = .opened target := by
  cases outcome with
  | opened other => exact congrArg Outcome.opened (Option.some.inj isTarget)
  | filtered | issue _ | fault _ => cases isTarget

/-- A regular file that can be read stands at a location, and the
location is that of a path. -/
structure Readable (tree : FileTree) (file : Location) : Prop where
  canonical : ∃ spelled, tree.realLocation spelled = .ok file
  regular : ∃ bytes, tree.node? file = some (.file bytes true)

theorem node?_of_readAt
    {tree : FileTree} {file : Location} {bytes : List UInt8}
    (readable : tree.readAt file = .ok bytes) :
    tree.node? file = some (.file bytes true) := by
  unfold FileTree.readAt at readable
  split at readable
  next content mayRead found =>
    split at readable
    next granted =>
      rw [found, Except.ok.inj readable, granted]
    · cases readable
  · cases readable
  · cases readable

section Sourcings

variable {tree : FileTree} {settings : Settings} {root : Path}

theorem follow_of_outcome
    {line : Sourcing} {target : Location}
    (outcome : line.outcome tree settings root = .opened target) :
    ∃ bytes, aim tree settings root line.chain line.target = .follow target bytes := by
  unfold Sourcing.outcome at outcome
  split at outcome
  case h_4 followed =>
    cases outcome
    exact ⟨_, followed⟩
  all_goals cases outcome

/-- What a `source` line opens is a readable file that is to be followed. -/
theorem readable_of_outcome
    {line : Sourcing} {target : Location}
    (outcome : line.outcome tree settings root = .opened target) :
    Readable tree target ∧ selected settings target = true := by
  obtain ⟨bytes, followed⟩ := follow_of_outcome outcome
  obtain ⟨canonical, chosen, -, opened⟩ := aim_eq_follow_iff.mp followed
  have readable := FileTree.readAt_of_openAt opened
  exact ⟨⟨⟨_, canonical⟩, ⟨bytes, node?_of_readAt readable⟩⟩, chosen⟩

/-- The targets of lines are what the lines open. -/
theorem exists_opened_of_mem_targets
    {lines : List Sourcing} {target : Location}
    (member : target ∈
      (lines.map (Sourcing.outcome tree settings root)).filterMap Outcome.target?) :
    ∃ line ∈ lines, line.outcome tree settings root = .opened target := by
  obtain ⟨outcome, outcomeMember, isTarget⟩ := List.mem_filterMap.mp member
  obtain ⟨line, lineMember, rfl⟩ := List.mem_map.mp outcomeMember
  exact ⟨line, lineMember, Outcome.eq_opened_of_target? isTarget⟩

/-- A `source` line that is processed in a visit stands in the file of the visit, or in
a file that another such line opens. -/
theorem file_of_mem_sourcingsIn
    (chain : List Location) {file : Location} {bytes : List UInt8} {line : Sourcing}
    (member : line ∈ sourcingsIn tree settings root chain file bytes) :
    line.file = file ∨
      .opened line.file ∈
        (sourcingsIn tree settings root chain file bytes).map
          (Sourcing.outcome tree settings root) := by
  induction chain using @chain_induction tree settings root generalizing file bytes with
  | step chain inductionHypothesis =>
      rw [sourcingsIn_eq] at member ⊢
      obtain ⟨text, source, member⟩ := List.mem_flatMap.mp member
      rcases List.mem_cons.mp member with rfl | nested
      · exact Or.inl rfl
      · right
        have within : ∀ other ∈
              ⟨chain, file, text⟩ :: sourcingsBehind tree settings root chain text,
            other.outcome tree settings root ∈
              ((Stanza.sources settings.skipHelp (linesOf bytes)).flatMap fun text =>
                ⟨chain, file, text⟩ :: sourcingsBehind tree settings root
                  chain text).map (Sourcing.outcome tree settings root) :=
                    fun other here =>
          List.mem_map_of_mem (List.mem_flatMap.mpr ⟨text, source, here⟩)
        unfold sourcingsBehind at nested
        split at nested
        next target content aimed =>
          have behind : sourcingsBehind tree settings root chain text =
              sourcingsIn tree settings root (target :: chain) target content := by
            rw [sourcingsBehind, aimed]
          rcases inductionHypothesis text target content aimed nested with same | opened
          · have outcome : Sourcing.outcome tree settings root ⟨chain, file, text⟩ =
                .opened target := by
              rw [Sourcing.outcome, aimed]
            exact same ▸ outcome ▸ within _ List.mem_cons_self
          · obtain ⟨other, inside, opens⟩ := List.mem_map.mp opened
            exact opens ▸ within other (List.mem_cons_of_mem _ (behind ▸ inside))
        · cases nested

/-- An issue of a `source` line is about the file of the line. -/
theorem file_of_issue?_outcome
    {line : Sourcing} {issue : Issue}
    (recorded : (line.outcome tree settings root).issue? = some issue) :
    issue.file = line.file.path.toString := by
  unfold Sourcing.outcome at recorded
  split at recorded <;> cases recorded <;> rfl

end Sourcings

/-! ## A file with three `source` lines -/

/-- The lines of a file that sources one file beside it, one outside,
and one that is missing. -/
def markedBytes : List UInt8 :=
  Text.Utf8.encode "source \"arch/y\"\nsource \"z\"\nsource \"arch/n\"\n".toList

/-- A directory with the file and its neighbour in the architecture
part, and a file outside. -/
def markedTree : FileTree :=
  ⟨["k"], [(["k"], .openDirectory), (["k", "arch"], .openDirectory),
    (["k", "arch", "x"], .file markedBytes true), (["k", "arch", "y"], .file [] true),
    (["k", "z"], .file [] true)]⟩

/-- Only targets in the architecture part are followed. -/
def markedSettings : Settings where
  version := "1"
  kernelRoot := some ⟨.root, ["k"]⟩

/-- What happens in a resolution of the file. -/
def markedEvents : List Event :=
  [.opened ["k", "arch", "x"], .entering ["k", "arch", "y"] ["k", "arch", "x"],
    .opened ["k", "arch", "y"], .finished ["k", "arch", "y"], .filtered ["k", "z"],
    .skipped ["k", "arch", "x"]
      (.unresolved "arch/n" (.refused .noSuchEntry "/k/arch/n"))]

section Marked

theorem realLocation_marked :
    markedTree.realLocation (⟨.root, ["k"]⟩ / Path.ofString "arch/y") =
        .ok ["k", "arch", "y"] ∧
      markedTree.realLocation (⟨.root, ["k"]⟩ / Path.ofString "z") = .ok ["k", "z"] ∧
      markedTree.realLocation (⟨.root, ["k"]⟩ / Path.ofString "arch/n") =
        .error (.refused .noSuchEntry "/k/arch/n") ∧
      markedTree.locate true (Location.path ["k", "arch", "y"]) =
        .ok ["k", "arch", "y"] := by
  refine ⟨?_, ?_, ?_, ?_⟩
  all_goals cbv

theorem visit_marked :
    visit markedTree markedSettings ⟨.root, ["k"]⟩ [["k", "arch", "x"]]
      ["k", "arch", "x"] markedBytes =
      markedEvents := by
  have inside : selected markedSettings ["k", "arch", "y"] = true := by rfl
  have outside : selected markedSettings ["k", "z"] = false := by rfl
  obtain ⟨beside, elsewhere, absent, located⟩ := realLocation_marked
  have opened : markedTree.openAt ["k", "arch", "y"] = .ok [] :=
    FileTree.openAt_of_locate located
  have followed : aim markedTree markedSettings ⟨.root, ["k"]⟩ [["k", "arch", "x"]]
      "arch/y" =
      .follow ["k", "arch", "y"] [] :=
    (Aims.follow beside inside (by simp) opened).eq
  have filtered : aim markedTree markedSettings ⟨.root, ["k"]⟩
      [["k", "arch", "x"]] "z" =
      .filtered ["k", "z"] :=
    (Aims.filtered elsewhere outside).eq
  have missing : aim markedTree markedSettings ⟨.root, ["k"]⟩ [["k", "arch", "x"]]
      "arch/n" =
      .skipped (.unresolved "arch/n" (.refused .noSuchEntry "/k/arch/n")) :=
    (Aims.unresolved absent nofun).eq
  have entries : Stanza.entries markedSettings.skipHelp (linesOf markedBytes) =
      [.source "arch/y", .source "z", .source "arch/n"] := by
    rfl
  have noEntries : Stanza.entries markedSettings.skipHelp (linesOf []) = [] := by
    rfl
  rw [visit_eq_entries, entries]
  simp only [List.flatMap_cons, List.flatMap_nil, entryEvents, sourceEvents,
    followed, filtered, missing]
  rw [visit_eq_entries, noEntries]
  rfl

theorem run_marked :
    (run markedTree markedSettings ⟨.working, ["arch", "x"]⟩).1 =
      .ok (Result.ofEvents markedEvents) := by
  have opened : openEntry markedTree ⟨.working, ["arch", "x"]⟩ =
      .ok (["k", "arch", "x"], markedBytes) := by
    cbv
  have faultless : ∀ event ∈ markedEvents, event.fault? = none := by
    decide
  rw [run_eq_ok_iff]
  exact ⟨["k", "arch", "x"], markedBytes, opened, visit_marked ▸ faultless,
    congrArg Result.ofEvents visit_marked.symm⟩

end Marked

/-! ## Results -/

section Run

variable {tree : FileTree} {settings : Settings} {entry : Path} {result : Result}

/-- A run that returns gives its entry file and the files that the `source` lines in
there open, the parents of the latter, and the issues of the `source` lines. -/
theorem result_of_sourcings (returned : (run tree settings entry).1 = .ok result) :
    ∃ file bytes,
      tree.realLocation entry = .ok file ∧ tree.openAt file = .ok bytes ∧
        let root := (chooseRoot tree settings entry).1
        let lines := sourcingsIn tree settings root [file] file bytes
        let outcomes := lines.map (Sourcing.outcome tree settings root)
        result.files = file.path :: (outcomes.filterMap Outcome.target?).map
          Location.path ∧
          (∀ directory, directory ∈ result.sourceDirectories ↔
            directory ∈ (outcomes.filterMap Outcome.target?).map (·.path.parent)) ∧
          result.sourceDirectories.Nodup ∧
          result.issues = outcomes.filterMap Outcome.issue? := by
  obtain ⟨file, bytes, opened, -, rfl⟩ := run_eq_ok_iff.mp returned
  obtain ⟨located, readable⟩ := openEntry_eq_ok_iff.mp opened
  have fileEq : ∀ event : Event, event.file? = event.outcome?.bind Outcome.file? := by
    rintro ⟨⟩ <;> rfl
  have issueEq : ∀ event :
      Event, event.issue? = event.outcome?.bind Outcome.issue? := by
    rintro ⟨⟩ <;> rfl
  refine ⟨file, bytes, located, readable, ?_, ?_, nodup_eraseDups _, ?_⟩
  · rw [List.map_filterMap, ← funext Outcome.file?_eq]
    exact filterMap_visit_of_outcome fileEq [file] file bytes
  · intro directory
    rw [List.map_filterMap, ← funext Outcome.sourceDirectory?_eq, Result.ofEvents,
      List.mem_eraseDups]
    exact (filterMap_sourceDirectory?_visit [file] file bytes).mem_iff
  · exact filterMap_visit_of_outcome issueEq [file] file bytes

/-- Every result has the same shape.  Its first file is the entry file by its
canonical path.  All other files are readable regular files by their canonical
paths, which hold the marker of the architecture part unless every target is
followed.  Its directories are the parents of the other files, each once, and every
issue is about one of the files. -/
theorem result_has_shape (returned : (run tree settings entry).1 = .ok result) :
    (∃ file, tree.realLocation entry = .ok file ∧ result.files.head? = some file.path) ∧
      (∀ later ∈ result.files.tail,
        ∃ target, later = Location.path target ∧ Readable tree target ∧
          (settings.includeAll = false →
            settings.archMarker.toList <:+: later.toString.toList)) ∧
      (∀ directory, directory ∈ result.sourceDirectories ↔
        ∃ later ∈ result.files.tail, later.parent = directory) ∧
      result.sourceDirectories.Nodup ∧
      ∀ issue ∈ result.issues, ∃ file ∈ result.files, issue.file = file.toString := by
  obtain ⟨file, bytes, located, -, files, directories, distinct, issues⟩ :=
    result_of_sourcings returned
  refine ⟨⟨file, located, files ▸ rfl⟩, ?_, ?_, distinct, ?_⟩
  · rw [files, List.tail_cons]
    intro later member
    obtain ⟨target, targetMember, rfl⟩ := List.mem_map.mp member
    obtain ⟨line, -, opened⟩ := exists_opened_of_mem_targets targetMember
    obtain ⟨readable, chosen⟩ := readable_of_outcome opened
    refine ⟨target, rfl, readable, fun selective => ?_⟩
    rw [selected, selective, Bool.false_or] at chosen
    exact (Text.contains_iff_isInfix _ _).mp chosen
  · intro directory
    rw [directories, files, List.tail_cons, List.mem_map]
    simp only [List.mem_map, exists_exists_and_eq_and]
  · intro issue member
    rw [issues] at member
    obtain ⟨outcome, outcomeMember, recorded⟩ := List.mem_filterMap.mp member
    obtain ⟨line, lineMember, rfl⟩ := List.mem_map.mp outcomeMember
    rw [files, file_of_issue?_outcome recorded]
    rcases file_of_mem_sourcingsIn [file] lineMember with same | opened
    · exact ⟨file.path, List.mem_cons_self, same ▸ rfl⟩
    · refine ⟨line.file.path, List.mem_cons_of_mem _ (List.mem_map_of_mem ?_), rfl⟩
      exact List.mem_filterMap.mpr ⟨_, opened, rfl⟩

/-- The file beside the entry file holds the marker and is followed, so that their
directory is the only one of the result; the file outside is not, and the missing one is
an issue of the entry file. -/
theorem result_has_shape_marked :
    (run markedTree markedSettings ⟨.working, ["arch", "x"]⟩).1 =
        .ok (Result.ofEvents markedEvents) ∧
      (Result.ofEvents markedEvents).files.tail = [⟨.root, ["k", "arch", "y"]⟩] ∧
      Readable markedTree ["k", "arch", "y"] ∧
      markedSettings.archMarker.toList <:+: "/k/arch/y".toList ∧
      (∀ directory, directory ∈ (Result.ofEvents markedEvents).sourceDirectories ↔
        directory = ⟨.root, ["k", "arch"]⟩) ∧
      ∀ issue ∈ (Result.ofEvents markedEvents).issues,
      issue.file ∈ ["/k/arch/x", "/k/arch/y"] := by
  obtain ⟨-, later, directories, -, issues⟩ := result_has_shape run_marked
  have files : (Result.ofEvents markedEvents).files =
      [⟨.root, ["k", "arch", "x"]⟩, ⟨.root, ["k", "arch", "y"]⟩] := rfl
  rw [files] at later directories issues
  obtain ⟨target, same, readable, marked⟩ := later _ (List.mem_singleton_self _)
  obtain rfl : ["k", "arch", "y"] = target := congrArg Path.names same
  refine ⟨run_marked, rfl, readable, ?_, fun directory => ?_, fun issue member => ?_⟩
  · exact marked rfl
  · rw [directories]
    simp [Path.parent, eq_comm]
  · obtain ⟨file, inFiles, about⟩ := issues issue member
    have texts :
        ∀ file ∈ ([⟨.root, ["k", "arch", "x"]⟩,
            ⟨.root, ["k", "arch", "y"]⟩] : List Path),
          file.toString ∈ ["/k/arch/x", "/k/arch/y"] := by
      decide
    exact about ▸ texts file inFiles

end Run

end Resolution
end KernelInventory
