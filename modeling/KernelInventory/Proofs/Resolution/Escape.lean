import KernelInventory.Proofs.FileTree.Plain
import KernelInventory.Proofs.Resolution.Raising
import KernelInventory.Proofs.Resolution.Sourcing

/-!
# Failures that escape a resolution

A resolution returns, or reports that its entry file cannot be read, unless one of two
failures escapes it: the path of the entry file leads into a loop of links, although
such a loop behind a `source` line is an issue like any other; or the path of a `source`
line holds NUL, which is caught nowhere.  Nothing else in the tree, and nothing else in
the files, makes a failure escape.
-/

namespace KernelInventory
namespace Resolution

section Lines

variable {tree : FileTree} {settings : Settings} {root : Path}

theorem fault?_outcome_eq_some_iff {line : Sourcing} {failure : FileFailure} :
    (line.outcome tree settings root).fault? = some failure ↔
      failure = .nullByte ∧
        tree.realLocation (root / Path.ofString line.target) = .error .nullByte := by
  rw [← @aim_eq_fault_iff tree settings root line.chain, Sourcing.outcome]
  cases aim tree settings root line.chain line.target <;> simp [Outcome.fault?]

/-- The failures in a visit are all NUL, one for every `source` line whose path holds
it. -/
theorem mem_filterMap_fault?_visit
    {chain : List Location} {file : Location} {bytes : List UInt8}
    {failure : FileFailure} :
    failure ∈ (visit tree settings root chain file bytes).filterMap Event.fault? ↔
      failure = .nullByte ∧
        ∃ line ∈ sourcingsIn tree settings root chain file bytes,
          tree.realLocation (root / Path.ofString line.target) = .error .nullByte := by
  have selectEq : ∀ event :
      Event, event.fault? = event.outcome?.bind Outcome.fault? := by
    rintro ⟨⟩ <;> rfl
  have faults : (visit tree settings root chain file bytes).filterMap Event.fault? =
      ((sourcingsIn tree settings root chain file bytes).map
        (Sourcing.outcome tree settings root)).filterMap Outcome.fault? :=
    filterMap_visit_of_outcome selectEq chain file bytes
  rw [faults, List.filterMap_map, List.mem_filterMap]
  constructor
  · rintro ⟨line, member, fault⟩
    obtain ⟨same, located⟩ := fault?_outcome_eq_some_iff.mp fault
    exact ⟨same, line, member, located⟩
  · rintro ⟨same, line, member, located⟩
    exact ⟨line, member, fault?_outcome_eq_some_iff.mpr ⟨same, located⟩⟩

/-- A visit ends early exactly if the path of one of its `source` lines holds NUL. -/
theorem findSome?_fault?_visit
    {chain : List Location} {file : Location} {bytes : List UInt8}
    {failure : FileFailure} :
    (visit tree settings root chain file bytes).findSome? Event.fault? = some failure ↔
      failure = .nullByte ∧
        ∃ line ∈ sourcingsIn tree settings root chain file bytes,
          tree.realLocation (root / Path.ofString line.target) = .error .nullByte := by
  rw [← mem_filterMap_fault?_visit, ← List.head?_filterMap]
  constructor
  · exact List.mem_of_head?
  · intro member
    obtain ⟨first, found⟩ := Option.isSome_iff_exists.mp
      (List.isSome_head?.mpr (List.ne_nil_of_mem member))
    have firstNull := (mem_filterMap_fault?_visit.mp (List.mem_of_head? found)).1
    rw [found, firstNull, (mem_filterMap_fault?_visit.mp member).1]

end Lines

/-- Whether a resolution returns, or reports that its entry file cannot be read. -/
def ReturnsOrReports (tree : FileTree) (settings : Settings) (entry : Path) : Prop :=
  (∃ result, (run tree settings entry).1 = .ok result) ∨
    ∃ cause, (run tree settings entry).1 = .error (.unreadableEntry entry cause)

section Run

variable {tree : FileTree} {settings : Settings} {entry : Path}

/-- An entry file that cannot be found or opened ends the resolution with that
failure. -/
theorem run_of_openEntry_error
    {failure : FileFailure} (failed : openEntry tree entry = .error failure) :
    (run tree settings entry).1 = .error (.ofEntry entry failure) := by
  simp only [run, failed]

/-- Behind an entry file that has been opened, only NUL in a `source`
line ends a resolution. -/
theorem run_eq_error_iff_of_openEntry
    {file : Location} {bytes : List UInt8}
    (opened : openEntry tree entry = .ok (file, bytes))
    {failure : Failure} :
    (run tree settings entry).1 = .error failure ↔
      failure = .fault .nullByte ∧
        ∃ line ∈ sourcings tree settings entry,
          tree.realLocation
            ((chooseRoot tree settings entry).1 / Path.ofString line.target) =
            .error .nullByte := by
  have lines : sourcings tree settings entry =
      sourcingsIn tree settings (chooseRoot tree settings entry).1 [file] file
        bytes := by
    rw [sourcings, opened]
  have ends := @findSome?_fault?_visit tree settings (chooseRoot tree settings entry).1
    [file] file bytes
  simp only [lines, run, opened]
  cases found : (visit tree settings (chooseRoot tree settings entry).1 [file] file
      bytes).findSome? Event.fault? with
  | none =>
      constructor
      · rintro ⟨⟩
      · rintro ⟨-, line⟩
        cases found.symm.trans (ends.mpr ⟨rfl, line⟩)
  | some first =>
      obtain ⟨rfl, line⟩ := ends.mp found
      constructor
      · intro same
        exact ⟨(Except.error.inj same).symm, line⟩
      · rintro ⟨rfl, -⟩
        rfl

/-- What is reported is what the file system refuses about the entry file. -/
theorem run_eq_unreadableEntry_iff {reported : Path} {cause : FileFailure} :
    (run tree settings entry).1 = .error (.unreadableEntry reported cause) ↔
      reported = entry ∧ openEntry tree entry = .error cause ∧
        ∃ error place, cause = .refused error place := by
  cases opened : openEntry tree entry with
  | ok pair =>
      rw [run_eq_error_iff_of_openEntry opened]
      constructor
      · nofun
      · nofun
  | error failure =>
      rw [run_of_openEntry_error opened]
      constructor
      · intro same
        cases failure with
        | refused error place =>
            cases same
            exact ⟨rfl, rfl, error, place, rfl⟩
        | linkLoop place | nullByte => cases same
      · rintro ⟨rfl, same, error, place, rfl⟩
        cases same
        rfl

/-- An entry file whose path holds no NUL is refused, or its path leads
into a loop of links. -/
theorem openEntry_error_cases
    (plainEntry : entry.hasNull = false)
    (plainLinks : tree.PlainLinks)
    {failure : FileFailure}
    (failed : openEntry tree entry = .error failure) :
    (∃ error place, failure = .refused error place) ∨
      ∃ place, failure = .linkLoop place ∧
        tree.realLocation entry = .error failure := by
  unfold openEntry at failed
  split at failed
  next cause located =>
    obtain rfl := Except.error.inj failed
    cases cause with
    | refused error place => exact .inl ⟨error, place, rfl⟩
    | linkLoop place => exact .inr ⟨place, rfl, located⟩
    | nullByte =>
        rw [FileTree.hasNull_of_realLocation plainLinks located] at plainEntry
        cases plainEntry
  · split at failed
    · obtain rfl := Except.error.inj failed
      exact .inl ⟨_, _, rfl⟩
    · cases failed

/-- What escapes is a loop of links that the entry path leads into, or
NUL in a `source` line. -/
theorem run_eq_fault_iff
    (plainEntry : entry.hasNull = false)
    (plainLinks : tree.PlainLinks)
    {failure : FileFailure} :
    (run tree settings entry).1 = .error (.fault failure) ↔
      (∃ place, failure = .linkLoop place ∧ tree.realLocation entry = .error failure) ∨
        failure = .nullByte ∧
          ∃ line ∈ sourcings tree settings entry,
            tree.realLocation
              ((chooseRoot tree settings entry).1 / Path.ofString line.target) =
              .error .nullByte := by
  cases opened : openEntry tree entry with
  | ok pair =>
      rw [run_eq_error_iff_of_openEntry opened, Failure.fault.injEq]
      constructor
      · exact .inr
      · rintro (⟨place, -, located⟩ | escaped)
        · rw [(openEntry_eq_ok_iff.mp opened).1] at located
          cases located
        · exact escaped
  | error other =>
      have noLines : sourcings tree settings entry = [] := by
        rw [sourcings, opened]
      rw [run_of_openEntry_error opened, noLines]
      constructor
      · intro same
        rcases openEntry_error_cases plainEntry plainLinks opened with
          ⟨error, place, rfl⟩ | ⟨place, rfl, located⟩
        · cases same
        · cases same
          exact .inl ⟨place, rfl, located⟩
      · rintro (⟨place, rfl, located⟩ | ⟨-, line, member, -⟩)
        · rw [openEntry, located] at opened
          cases opened
          rfl
        · cases member

/-- A resolution returns or reports its entry file exactly if nothing escapes it. -/
theorem returnsOrReports_iff_not_escaped :
    ReturnsOrReports tree settings entry ↔
      ∀ failure, (run tree settings entry).1 ≠ .error (.fault failure) := by
  constructor
  · rintro (⟨result, ended⟩ | ⟨cause, ended⟩) failure escaped
    · cases ended.symm.trans escaped
    · cases ended.symm.trans escaped
  · intro nothing
    cases ended : (run tree settings entry).1 with
    | ok result => exact .inl ⟨result, ended⟩
    | error failure =>
        cases failure with
        | unreadableEntry reported cause =>
            obtain ⟨rfl, -⟩ := run_eq_unreadableEntry_iff.mp ended
            exact .inr ⟨cause, ended⟩
        | fault escaped => exact absurd ended (nothing escaped)

end Run

/-! ## Two trees that a failure escapes from -/

/-- A `source` line whose target holds NUL. -/
def nullBytes : List UInt8 :=
  Text.Utf8.encode "source \"a\x00b\"\n".toList

/-- A file with such a line. -/
def nullTree : FileTree :=
  twoFiles nullBytes []

/-- An entry file that is a link to itself. -/
def loopTree : FileTree :=
  ⟨["k"], [(["k"], .openDirectory), (["k", "out"], .link "out")]⟩

theorem plainLinks_nullTree : nullTree.PlainLinks := by
  intro location target found
  by_cases atRoot : location = []
  · subst atRoot
    cases found
  · have member := FileTree.mem_entries_of_node? atRoot found
    simp [nullTree, twoFiles, Node.openDirectory] at member

theorem realLocation_nullTree :
    nullTree.realLocation (⟨.root, ["k"]⟩ / Path.ofString "a\x00b") =
      .error .nullByte := by
  cbv

theorem sourcings_nullTree :
    sourcings nullTree nestedSettings ⟨.working, ["out"]⟩ =
      [⟨[["k", "out"]], ["k", "out"], "a\x00b"⟩] := by
  have opened : openEntry nullTree ⟨.working, ["out"]⟩ =
      .ok (["k", "out"], nullBytes) :=
    openEntry_twoFiles nullBytes []
  have lines : Stanza.sources nestedSettings.skipHelp (linesOf nullBytes) =
      ["a\x00b"] := by
    rfl
  have root : (chooseRoot nullTree nestedSettings ⟨.working, ["out"]⟩).1 =
      ⟨.root, ["k"]⟩ := rfl
  have failed : aim nullTree nestedSettings ⟨.root, ["k"]⟩ [["k", "out"]] "a\x00b" =
      .fault .nullByte :=
    aim_eq_fault_iff.mpr ⟨rfl, realLocation_nullTree⟩
  rw [sourcings, opened, root]
  dsimp only
  rw [sourcingsIn_eq, lines, List.flatMap_singleton, sourcingsBehind, failed]

/-- NUL in a `source` line ends the whole resolution. -/
theorem run_nullTree :
    (run nullTree nestedSettings ⟨.working, ["out"]⟩).1 =
      .error (.fault .nullByte) := by
  have opened : openEntry nullTree ⟨.working, ["out"]⟩ =
      .ok (["k", "out"], nullBytes) :=
    openEntry_twoFiles nullBytes []
  rw [run_eq_error_iff_of_openEntry opened, sourcings_nullTree]
  exact ⟨rfl, _, List.mem_cons_self, realLocation_nullTree⟩

/-- A loop of links behind the entry path is not reported. -/
theorem run_loopTree :
    (run loopTree nestedSettings ⟨.working, ["out"]⟩).1 =
      .error (.fault (.linkLoop "out")) := by
  have failed : openEntry loopTree ⟨.working, ["out"]⟩ = .error (.linkLoop "out") := by
    cbv
  exact run_of_openEntry_error failed

/-! ## What escapes -/

/-- What a resolution ends with whose entry path holds no NUL.  It returns or reports
its entry file exactly if that path does not lead into a loop of links, and no `source`
line is processed whose path holds NUL where it is looked up.  What it reports is
exactly what the file system refuses about the entry file; and what escapes otherwise is
exactly that loop, or NUL.  As no link holds NUL, it stands in the text of the line,
unless the directory holds it that targets are found from.  A relative entry path is
seen from the working directory, which is taken to be there.

The list of `source` lines goes on behind one that ends the resolution.  That does not
matter here: the first such line has been processed. -/
theorem returnsOrReports_iff
    (tree : FileTree)
    (settings : Settings)
    (entry : Path)
    (plainEntry : entry.hasNull = false)
    (plainLinks : tree.PlainLinks) :
    (ReturnsOrReports tree settings entry ↔
      (∀ place, tree.realLocation entry ≠ .error (.linkLoop place)) ∧
        ∀ line ∈ sourcings tree settings entry,
          tree.realLocation
            ((chooseRoot tree settings entry).1 / Path.ofString line.target) ≠
            .error .nullByte) ∧
      (∀ reported cause, (run tree settings entry).1 =
        .error (.unreadableEntry reported cause) ↔
        reported = entry ∧ openEntry tree entry = .error cause ∧
          ∃ error place, cause = .refused error place) ∧
      (∀ failure, (run tree settings entry).1 = .error (.fault failure) ↔
        (∃ place, failure = .linkLoop place ∧
          tree.realLocation entry = .error failure) ∨
          failure = .nullByte ∧
            ∃ line ∈ sourcings tree settings entry,
              tree.realLocation
                  ((chooseRoot tree settings entry).1 / Path.ofString line.target) =
                .error .nullByte) ∧
      ∀ line : Sourcing,
        tree.realLocation
          ((chooseRoot tree settings entry).1 / Path.ofString line.target) =
            .error .nullByte →
          (chooseRoot tree settings entry).1.hasNull = true ∨
            '\x00' ∈ line.target.toList := by
  refine ⟨?_, fun _ _ => run_eq_unreadableEntry_iff,
    fun _ => run_eq_fault_iff plainEntry plainLinks, ?_⟩
  · rw [returnsOrReports_iff_not_escaped]
    constructor
    · intro nothing
      refine ⟨?_, ?_⟩
      · intro place located
        exact nothing _
          ((run_eq_fault_iff plainEntry plainLinks).mpr (.inl ⟨place, rfl, located⟩))
      · intro line member located
        exact nothing _
          ((run_eq_fault_iff plainEntry plainLinks).mpr
            (.inr ⟨rfl, line, member, located⟩))
    · rintro ⟨noLoop, noNull⟩ failure escaped
      rcases (run_eq_fault_iff plainEntry plainLinks).mp escaped with
        ⟨place, rfl, located⟩ | ⟨-, line, member, located⟩
      · exact noLoop place located
      · exact noNull line member located
  · intro line located
    have holdsNull := FileTree.hasNull_of_realLocation plainLinks located
    exact (Path.hasNull_or_of_hasNull_div holdsNull).imp_right
      Path.mem_of_hasNull_ofString

/-- NUL escapes from the tree whose file has a `source` line that holds it. -/
theorem returnsOrReports_iff_nullTree :
    Path.hasNull ⟨.working, ["out"]⟩ = false ∧ nullTree.PlainLinks ∧
      ∃ line ∈ sourcings nullTree nestedSettings ⟨.working, ["out"]⟩,
        '\x00' ∈ line.target.toList := by
  obtain ⟨-, -, escapes, inText⟩ :=
    returnsOrReports_iff nullTree nestedSettings ⟨.working, ["out"]⟩ rfl
      plainLinks_nullTree
  refine ⟨rfl, plainLinks_nullTree, ?_⟩
  rcases (escapes .nullByte).mp run_nullTree with ⟨place, same, -⟩ |
    ⟨-, line, member, located⟩
  · cases same
  · exact ⟨line, member, (inText line located).resolve_left (by decide +kernel)⟩

/-- Not every resolution returns or reports its entry file. -/
theorem escapes_nullTree_and_loopTree :
    ¬ ReturnsOrReports nullTree nestedSettings ⟨.working, ["out"]⟩ ∧
      ¬ ReturnsOrReports loopTree nestedSettings ⟨.working, ["out"]⟩ := by
  constructor
  · intro ended
    exact returnsOrReports_iff_not_escaped.mp ended _ run_nullTree
  · intro ended
    exact returnsOrReports_iff_not_escaped.mp ended _ run_loopTree

end Resolution
end KernelInventory
