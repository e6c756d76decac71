import KernelInventory.Proofs.Resolution.Aim
import KernelInventory.Proofs.Stanza.Reading

/-!
# Visits of files

The events of a visit are those of the lines of its file, in order, and the visit of a
sourced file stands in the place of its `source` line.  A chain of open files grows with
every nested visit and never repeats a file, so that what holds of a chain whenever it
holds of the chains that go one file further holds of all chains.
-/

namespace KernelInventory
namespace Resolution

/-- The lines of a file with some bytes. -/
def linesOf (bytes : List UInt8) : List (List Char) :=
  Text.lines (Text.Utf8.decode bytes)

section Visit

variable (tree : FileTree) (settings : Settings) (root : Path)

/-- The events of a `source` line of a file. -/
def sourceEvents (chain : List Location) (file : Location) (text : String) :
    List Event :=
  match aim tree settings root chain text with
  | .filtered target => [.filtered target]
  | .skipped cause => [.skipped file cause]
  | .locked target error =>
      [.entering target file, .skipped file (.unreadable target error)]
  | .follow target content =>
    .entering target file ::
      visit tree settings root (target :: chain) target content ++ [.finished target]
  | .fault failure => [.fault failure]

/-- The events of an entry of a file. -/
def entryEvents (chain : List Location) (file : Location) : Stanza.Entry → List Event
  | .effect change => [.effect file change]
  | .source text => sourceEvents tree settings root chain file text

/-- The events of a line of a file, given the lines in front of it. -/
def lineEvents (chain : List Location) (file : Location) (past : List Stanza.Reading)
    (reading : Stanza.Reading) : List Event :=
  (reading.toEntry past).toList.flatMap (entryEvents tree settings root chain file)

/-- A visit opens its file and goes through the entries. -/
theorem visit_eq_entries (chain : List Location) (file : Location)
    (bytes : List UInt8) :
    visit tree settings root chain file bytes =
      .opened file ::
        (Stanza.entries settings.skipHelp (linesOf bytes)).flatMap
          (entryEvents tree settings root chain file) := by
  rw [visit, linesOf]
  congr 1
  apply List.flatMap_congr
  intro entry _
  cases entry with
  | effect change => rfl
  | source text =>
      rw [entryEvents, sourceEvents]
      dsimp only
      split
      all_goals next found => rw [found]

/-- A visit opens its file and goes through the lines. -/
theorem visit_eq_lines (chain : List Location) (file : Location) (bytes : List UInt8) :
    visit tree settings root chain file bytes =
      .opened file ::
        (withPast [] (Stanza.readings settings.skipHelp (linesOf bytes))).flatMap
          fun (past, reading) =>
            lineEvents tree settings root chain file past reading := by
  rw [visit_eq_entries, Stanza.entries_eq, List.filterMap_eq_flatMap_toList,
    List.flatMap_assoc]
  rfl

variable {tree settings root}

/-- A selection of events that passes over the ends of a visit finds in the events of a
`source` line what it finds in the visit that the line starts. -/
theorem filterMap_sourceEvents_of_follow
    {α : Type} {select : Event → Option α}
    {chain : List Location} {file target : Location} {text : String}
    {content : List UInt8}
    (followed : aim tree settings root chain text = .follow target content)
    (passesEntering : select (.entering target file) = none)
    (passesFinished : select (.finished target) = none) :
    (sourceEvents tree settings root chain file text).filterMap select =
      (visit tree settings root (target :: chain) target content).filterMap select := by
  rw [sourceEvents, followed]
  simp only [List.cons_append, List.filterMap_cons, List.filterMap_append,
    List.filterMap_nil, passesEntering, passesFinished, List.append_nil]

/-- What holds of a chain of open files if it holds of all chains one file longer, holds
of every chain: the files that are not open yet become fewer. -/
theorem chain_induction
    {motive : List Location → Prop}
    (step : ∀ chain,
      (∀ text target content,
        aim tree settings root chain text = .follow target content →
        motive (target :: chain)) →
      motive chain)
    (chain : List Location) :
    motive chain :=
  step chain fun _ target _ followed =>
    have := followed
    chain_induction step (target :: chain)
termination_by (tree.freshLocations chain).length
decreasing_by
  next followed =>
    obtain ⟨fresh, opened⟩ := of_aim_follow followed
    exact FileTree.freshLocations_lt fresh opened

end Visit

/-! ## Runs that return -/

/-- The entry file is opened where its path leads. -/
theorem openEntry_eq_ok_iff
    {tree : FileTree} {entry : Path} {file : Location} {bytes : List UInt8} :
    openEntry tree entry = .ok (file, bytes) ↔
      tree.realLocation entry = .ok file ∧ tree.openAt file = .ok bytes := by
  constructor
  · intro opened
    unfold openEntry at opened
    split at opened
    · cases opened
    next location found =>
      split at opened
      · cases opened
      next content readable =>
        obtain ⟨rfl, rfl⟩ := Prod.mk.inj (Except.ok.inj opened)
        exact ⟨found, readable⟩
  · rintro ⟨located, readable⟩
    rw [openEntry, located]
    dsimp only
    rw [readable]

/-- Without a fault all events count. -/
theorem beforeFault_eq_self
    {events : List Event}
    (faultless : ∀ event ∈ events, event.fault? = none) :
    beforeFault events = events := by
  rw [beforeFault, List.takeWhile_eq_self_iff]
  intro event member
  rw [faultless event member]
  rfl

/-- A run returns exactly if its entry file can be opened and no fault is met, and then
it returns what its events amount to. -/
theorem run_eq_ok_iff
    {tree : FileTree} {settings : Settings} {entry : Path} {result : Result} :
    (run tree settings entry).1 = .ok result ↔
      ∃ file bytes,
        openEntry tree entry = .ok (file, bytes) ∧
          (∀ event ∈ visit tree settings (chooseRoot tree settings entry).1 [file]
            file bytes, event.fault? = none) ∧
          result = Result.ofEvents
            (visit tree settings (chooseRoot tree settings entry).1 [file] file
              bytes) := by
  unfold run
  cases opened : openEntry tree entry with
  | error failure =>
      constructor
      · intro returned
        cases returned
      · rintro ⟨_, _, found, -⟩
        cases found
  | ok pair =>
      obtain ⟨file, bytes⟩ := pair
      dsimp only
      constructor
      · intro returned
        split at returned
        · cases returned
        next noFault =>
          have faultless := List.findSome?_eq_none_iff.mp noFault
          rw [beforeFault_eq_self faultless] at returned
          exact ⟨file, bytes, rfl, faultless, (Except.ok.inj returned).symm⟩
      · rintro ⟨_, _, found, faultless, rfl⟩
        obtain ⟨rfl, rfl⟩ := Prod.mk.inj (Except.ok.inj found)
        rw [List.findSome?_eq_none_iff.mpr faultless, beforeFault_eq_self faultless]

/-! ## Two files that source each other -/

/-- A directory with two files. -/
def twoFiles (outer inner : List UInt8) : FileTree :=
  ⟨["k"], [(["k"], .openDirectory), (["k", "out"], .file outer true),
    (["k", "in"], .file inner true)]⟩

/-- Every target is followed, and found from the directory of the two files. -/
def nestedSettings : Settings where
  version := "1"
  includeAll := true
  kernelRoot := some ⟨.root, ["k"]⟩

section TwoFiles

variable (outer inner : List UInt8)

theorem openEntry_twoFiles :
    openEntry (twoFiles outer inner) ⟨.working, ["out"]⟩ =
      .ok (["k", "out"], outer) := by
  cbv

theorem aim_twoFiles_follow :
    aim (twoFiles outer inner) nestedSettings ⟨.root, ["k"]⟩ [["k", "out"]] "in" =
      .follow ["k", "in"] inner := by
  cbv

theorem aim_twoFiles_cycle :
    aim (twoFiles outer inner) nestedSettings ⟨.root, ["k"]⟩ [["k", "in"], ["k", "out"]]
        "../k//out" =
      .skipped (.cycle ["k", "out"]) := by
  cbv

end TwoFiles

/-- The outer file opens a component, and goes on with it behind the inner file. -/
def outerBytes : List UInt8 :=
  Text.Utf8.encode
    "config A\ndefault x\nsource \"in\"\ndef_bool y\ndefault z\ndepends on B\n".toList

/-- The inner file opens a component of its own, and then the outer file's again. -/
def innerBytes : List UInt8 :=
  Text.Utf8.encode
    "default lost\nconfig C\ndefault w\nsource \"../k//out\"\nconfig A\n".toList

/-- Two files that source each other, the outer one by another spelling of its path. -/
def nestedTree : FileTree :=
  twoFiles outerBytes innerBytes

/-- What happens in a resolution of the two files. -/
def nestedEvents : List Event :=
  [.opened ["k", "out"],
    .effect ["k", "out"] (.header "A"),
    .effect ["k", "out"] (.assign "A" (.default "x")),
    .entering ["k", "in"] ["k", "out"],
    .opened ["k", "in"],
    .effect ["k", "in"] (.header "C"),
    .effect ["k", "in"] (.assign "C" (.default "w")),
    .skipped ["k", "in"] (.cycle ["k", "out"]),
    .effect ["k", "in"] (.header "A"),
    .finished ["k", "in"],
    .effect ["k", "out"] (.assign "A" (.booleanDefault "y")),
    .effect ["k", "out"] (.assign "A" (.default "z")),
    .effect ["k", "out"] (.assign "A" (.dependsOn "B"))]

theorem visit_nested :
    visit nestedTree nestedSettings ⟨.root, ["k"]⟩ [["k", "out"]] ["k", "out"]
      outerBytes =
      nestedEvents := by
  have followed := aim_twoFiles_follow outerBytes innerBytes
  have skipped := aim_twoFiles_cycle outerBytes innerBytes
  have outerEntries : Stanza.entries nestedSettings.skipHelp (linesOf outerBytes) =
      [.effect (.header "A"), .effect (.assign "A" (.default "x")), .source "in",
        .effect (.assign "A" (.booleanDefault "y")),
        .effect (.assign "A" (.default "z")),
        .effect (.assign "A" (.dependsOn "B"))] := by
    rfl
  have innerEntries : Stanza.entries nestedSettings.skipHelp (linesOf innerBytes) =
      [.effect (.header "C"), .effect (.assign "C" (.default "w")), .source "../k//out",
        .effect (.header "A")] := by
    rfl
  rw [nestedTree, visit_eq_entries, outerEntries]
  simp only [List.flatMap_cons, List.flatMap_nil, entryEvents, sourceEvents, followed]
  rw [visit_eq_entries, innerEntries]
  simp only [List.flatMap_cons, List.flatMap_nil, entryEvents, sourceEvents, skipped]
  rfl

/-- The run through the two files returns. -/
theorem run_nested :
    (run nestedTree nestedSettings ⟨.working, ["out"]⟩).1 =
      .ok (Result.ofEvents nestedEvents) := by
  rw [run_eq_ok_iff]
  refine ⟨["k", "out"], outerBytes, openEntry_twoFiles outerBytes innerBytes, ?_, ?_⟩
  · have faultless : ∀ event ∈ nestedEvents, event.fault? = none := by
      decide
    exact visit_nested ▸ faultless
  · exact congrArg Result.ofEvents visit_nested.symm

theorem find?_nested :
    (Result.ofEvents nestedEvents).table.find? "A" =
      some
        { name := "A", kind := .boolean, defaults := ["y", "z"], depends := ["B"],
          occurrences := 2, files := ["/k/out", "/k/in"] } := by
  rfl

end Resolution
end KernelInventory
