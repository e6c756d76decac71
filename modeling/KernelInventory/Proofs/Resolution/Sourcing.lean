import KernelInventory.Proofs.Resolution.Visit

/-!
# What becomes of `source` lines

Every `source` line that is processed has one outcome: its target is filtered out, or
one issue is recorded, or the target is opened.  Apart from the entry file, the files,
the issues and the directories of a result are what these outcomes contribute, in the
order of the lines: what goes wrong inside a sourced file is the outcome of a line in
there, and a file that cannot be opened is not among the files.
-/

namespace KernelInventory

namespace Stanza

/-- The target of a `source` line. -/
def Reading.source? (reading : Reading) : Option String :=
  match reading.kind with
  | .source target => some target
  | _ => none

/-- The targets of the `source` lines of a file, in order. -/
def sources (skipping : Bool) (lines : List (List Char)) : List String :=
  (readings skipping lines).filterMap Reading.source?

/-- A line sources another file if its text begins so, and it is not skipped as help. -/
theorem source?_readingOf (skipping : Bool) (help : State) (raw : List Char) :
    (readingOf skipping help raw).2.source? =
      if "source".toList.isPrefixOf (Text.trim raw) ∧
        ¬ (skipping ∧ (skipHelp help raw).2) then
        some (String.ofList (Field.quotedAfter (Text.trim raw) "source".toList))
      else none := by
  unfold readingOf
  cases shape : Text.trim raw with
  | nil => rfl
  | cons first rest =>
      by_cases comment : first = '#'
      · subst comment
        rfl
      · simp only [List.head?_cons, Option.some.injEq, comment, if_false,
          List.isEmpty_cons]
        generalize "source".toList.isPrefixOf (first :: rest) = sourcing
        obtain ⟨next, skipped⟩ := skipHelp help raw
        cases skipping <;> cases skipped <;> cases sourcing <;> rfl

/-- What only the `source` lines of a file give is given by its sources. -/
theorem flatMap_entries_eq_sources
    {α : Type} {give : Entry → List α}
    (passesEffects : ∀ change, give (.effect change) = [])
    (skipping : Bool)
    (lines : List (List Char)) :
    (entries skipping lines).flatMap give =
      (sources skipping lines).flatMap fun target => give (.source target) := by
  have line : ∀ past reading, (Reading.toEntry past reading).toList.flatMap give =
      (reading.source?).toList.flatMap fun target => give (.source target) := by
    rintro past ⟨kind, text⟩
    unfold Reading.toEntry Reading.source?
    cases kind with
    | stanza =>
        dsimp only
        cases effectOf (ownerAfter past) (flagAfter past) text <;> simp [passesEffects]
    | comment | blank | help | source _ => rfl
  calc (entries skipping lines).flatMap give
      = (withPast [] (readings skipping lines)).flatMap fun pair =>
          (Reading.toEntry pair.1 pair.2).toList.flatMap give := by
        rw [entries_eq, List.filterMap_eq_flatMap_toList, List.flatMap_assoc]
    _ = (withPast [] (readings skipping lines)).flatMap fun pair =>
          pair.2.source?.toList.flatMap fun target => give (.source target) :=
        List.flatMap_congr fun pair _ => line pair.1 pair.2
    _ = (readings skipping lines).flatMap fun reading =>
          reading.source?.toList.flatMap fun target => give (.source target) := by
        conv_rhs =>
          rw [← map_snd_withPast [] (readings skipping lines), List.flatMap_map]
    _ = (sources skipping lines).flatMap fun target => give (.source target) := by
        rw [sources, List.filterMap_eq_flatMap_toList, List.flatMap_assoc]

end Stanza

namespace Resolution

/-- A `source` line that is processed: the files that are being read, the file that it
stands in, and its target as written. -/
structure Sourcing where
  chain : List Location
  file : Location
  target : String
deriving Repr, DecidableEq

/-- What becomes of a `source` line. -/
inductive Outcome
  /-- The target is not to be followed. -/
  | filtered
  | issue (recorded : Issue)
  | opened (target : Location)
  /-- The resolution cannot go on. -/
  | fault (failure : FileFailure)
deriving Repr, DecidableEq

namespace Outcome

/-- The file that an outcome adds to those of the result. -/
def file? : Outcome → Option Path
  | opened target => some target.path
  | _ => none

/-- The issue that an outcome adds to those of the result. -/
def issue? : Outcome → Option Issue
  | issue recorded => some recorded
  | _ => none

/-- The failure of an outcome that ends the resolution. -/
def fault? : Outcome → Option FileFailure
  | fault failure => some failure
  | _ => none

/-- The directory that an outcome adds to those of the result. -/
def sourceDirectory? : Outcome → Option Path
  | opened target => some target.path.parent
  | _ => none

end Outcome

/-- The outcome that an event is. -/
def Event.outcome? : Event → Option Outcome
  | opened file => some (.opened file)
  | filtered _ => some .filtered
  | skipped file cause => some (.issue ⟨file.path.toString, cause.message⟩)
  | fault failure => some (.fault failure)
  | _ => none

section Sourcings

variable (tree : FileTree) (settings : Settings) (root : Path)

/-- The outcome of a `source` line. -/
def Sourcing.outcome (line : Sourcing) : Outcome :=
  match aim tree settings root line.chain line.target with
  | .filtered _ => .filtered
  | .skipped cause => .issue ⟨line.file.path.toString, cause.message⟩
  | .locked target error =>
    .issue ⟨line.file.path.toString, (SkipCause.unreadable target error).message⟩
  | .follow target _ => .opened target
  | .fault failure => .fault failure

/-- The `source` lines that are processed in a visit of a file, those of a sourced file
right behind the line that sources it. -/
def sourcingsIn (chain : List Location) (file : Location) (bytes : List UInt8) :
    List Sourcing :=
  (Stanza.sources settings.skipHelp (linesOf bytes)).flatMap fun text =>
    ⟨chain, file, text⟩ ::
      match _ : aim tree settings root chain text with
      | .follow target content => sourcingsIn (target :: chain) target content
      | _ => []
termination_by (tree.freshLocations chain).length
decreasing_by
  next followed =>
    obtain ⟨fresh, opened⟩ := of_aim_follow followed
    exact FileTree.freshLocations_lt fresh opened

/-- The `source` lines that are processed because of a `source` line. -/
def sourcingsBehind (chain : List Location) (text : String) : List Sourcing :=
  match aim tree settings root chain text with
  | .follow target content =>
      sourcingsIn tree settings root (target :: chain) target content
  | _ => []

theorem sourcingsIn_eq (chain : List Location) (file : Location) (bytes : List UInt8) :
    sourcingsIn tree settings root chain file bytes =
      (Stanza.sources settings.skipHelp (linesOf bytes)).flatMap fun text =>
        ⟨chain, file, text⟩ :: sourcingsBehind tree settings root chain text := by
  rw [sourcingsIn]
  apply List.flatMap_congr
  intro text _
  unfold sourcingsBehind
  split
  next found =>
    rw [found]
  next notFollowed =>
    split
    next found =>
      exact absurd found (notFollowed _ _)
    · rfl

/-- All `source` lines that are processed in a resolution, in the order in which they
are. -/
def sourcings (entry : Path) : List Sourcing :=
  match openEntry tree entry with
  | .error _ => []
  | .ok (file, bytes) =>
    sourcingsIn tree settings (chooseRoot tree settings entry).1 [file] file bytes

/-- What becomes of the `source` lines of a resolution. -/
def outcomes (entry : Path) : List Outcome :=
  (sourcings tree settings entry).map
    (Sourcing.outcome tree settings (chooseRoot tree settings entry).1)

end Sourcings

/-- The targets of the `source` lines of a file. -/
def sourcesAt (tree : FileTree) (skipping : Bool) (file : Path) : List String :=
  match tree.readAt file.names with
  | .ok bytes => Stanza.sources skipping (linesOf bytes)
  | .error _ => []

/-- The number of `source` lines in files; a file that is listed again counts again. -/
def sourceCount (tree : FileTree) (skipping : Bool) (files : List Path) : Nat :=
  tally (fun file => (sourcesAt tree skipping file).length) files

/-- If behind every item there are as many others as its files have `source`
lines, then there are as many items and others as the items, and the `source`
lines of all their files. -/
theorem length_flatMap_cons
    {α β : Type} {tree : FileTree} {skipping : Bool}
    {item : β → α} {others : β → List α} {files : β → List Path}
    (behind : ∀ origin, (others origin).length = sourceCount tree skipping
      (files origin))
    (origins : List β) :
    (origins.flatMap fun origin => item origin :: others origin).length =
      origins.length + sourceCount tree skipping (origins.flatMap files) := by
  induction origins with
  | nil => rfl
  | cons origin rest inductionHypothesis =>
      rw [List.flatMap_cons, List.flatMap_cons, List.length_append, List.length_cons,
        inductionHypothesis, behind, sourceCount, sourceCount, sourceCount,
        tally_append, List.length_cons]
      omega

section Visit

variable {tree : FileTree} {settings : Settings} {root : Path}

/-- A selection of events that passes over changes of the table finds the beginning of a
visit and what it finds in the events of the `source` lines. -/
theorem filterMap_visit_eq_sources
    {α : Type} {select : Event → Option α}
    (passesEffects : ∀ file change, select (.effect file change) = none)
    (chain : List Location) (file : Location) (bytes : List UInt8) :
    (visit tree settings root chain file bytes).filterMap select =
      (select (.opened file)).toList ++
        (Stanza.sources settings.skipHelp (linesOf bytes)).flatMap fun text =>
          (sourceEvents tree settings root chain file text).filterMap select := by
  rw [visit_eq_entries, List.filterMap_cons, List.filterMap_flatMap,
    Stanza.flatMap_entries_eq_sources]
  · cases select (.opened file) <;> rfl
  · intro change
    simp [entryEvents, passesEffects]

/-- The outcomes in a visit are its file and those of the processed
`source` lines, in order. -/
theorem filterMap_outcome?_visit (chain : List Location) (file : Location)
    (bytes : List UInt8) :
    (visit tree settings root chain file bytes).filterMap Event.outcome? =
      .opened file ::
        (sourcingsIn tree settings root chain file bytes).map
          (Sourcing.outcome tree settings root) := by
  induction chain using @chain_induction tree settings root generalizing file bytes with
  | step chain inductionHypothesis =>
      rw [filterMap_visit_eq_sources fun _ _ => rfl, sourcingsIn_eq, List.map_flatMap]
      refine congrArg (Outcome.opened file :: ·) (List.flatMap_congr ?_)
      intro text _
      rw [List.map_cons, Sourcing.outcome, sourcingsBehind]
      cases aimed : aim tree settings root chain text with
      | follow target content =>
          rw [filterMap_sourceEvents_of_follow aimed rfl rfl,
            inductionHypothesis text target content aimed target content]
      | filtered _ | skipped _ | locked _ _ | fault _ =>
          rw [sourceEvents, aimed]
          rfl

/-- A selection of events that looks at their outcomes finds in a visit what the
outcomes of its file and of the processed `source` lines give. -/
theorem filterMap_visit_of_outcome
    {α : Type} {select : Event → Option α} {give : Outcome → Option α}
    (selectEq : ∀ event, select event = event.outcome?.bind give)
    (chain : List Location) (file : Location) (bytes : List UInt8) :
    (visit tree settings root chain file bytes).filterMap select =
      (give (.opened file)).toList ++
        ((sourcingsIn tree settings root chain file bytes).map
          (Sourcing.outcome tree settings root)).filterMap give := by
  rw [funext selectEq, ← List.filterMap_filterMap, filterMap_outcome?_visit,
    List.filterMap_cons]
  cases give (.opened file) <;> rfl

/-- The directories that a visit adds are those of the outcomes of its `source` lines,
in another order: a directory is added when the file has been read. -/
theorem filterMap_sourceDirectory?_visit
    (chain : List Location) (file : Location) (bytes : List UInt8) :
    ((visit tree settings root chain file bytes).filterMap Event.sourceDirectory?).Perm
      (((sourcingsIn tree settings root chain file bytes).map
        (Sourcing.outcome tree settings root)).filterMap Outcome.sourceDirectory?) := by
  induction chain using @chain_induction tree settings root generalizing file bytes with
  | step chain inductionHypothesis =>
      rw [filterMap_visit_eq_sources fun _ _ => rfl, sourcingsIn_eq, List.map_flatMap,
        List.filterMap_flatMap]
      refine List.Perm.flatMap_left _ fun text _ => ?_
      rw [List.map_cons, Sourcing.outcome, sourcingsBehind, sourceEvents]
      cases aimed : aim tree settings root chain text with
      | follow target content =>
          have inside := inductionHypothesis text target content aimed target content
          have finished :
              (visit tree settings root (target :: chain) target content ++
                [Event.finished target]).filterMap Event.sourceDirectory? =
              (visit tree settings root (target :: chain) target content).filterMap
                Event.sourceDirectory? ++ [target.path.parent] := by
            rw [List.filterMap_append]
            rfl
          exact finished ▸ (List.perm_append_singleton _ _).trans (inside.cons _)
      | filtered _ | skipped _ | locked _ _ | fault _ => exact List.Perm.refl _

/-- As many `source` lines are processed in a visit as there are in the files that it
reads. -/
theorem length_sourcingsIn
    (chain : List Location) {file : Location} {bytes : List UInt8}
    (readable : tree.readAt file = .ok bytes) :
    (sourcingsIn tree settings root chain file bytes).length =
      sourceCount tree settings.skipHelp
        ((visit tree settings root chain file bytes).filterMap Event.file?) := by
  induction chain using @chain_induction tree settings root generalizing file bytes with
  | step chain inductionHypothesis =>
      have own : sourcesAt tree settings.skipHelp file.path =
          Stanza.sources settings.skipHelp (linesOf bytes) := by
        rw [sourcesAt, Location.path, readable]
      have behind : ∀ text,
          (sourcingsBehind tree settings root chain text).length =
            sourceCount tree settings.skipHelp
              ((sourceEvents tree settings root chain file text).filterMap
                Event.file?) := by
        intro text
        rw [sourcingsBehind]
        cases aimed : aim tree settings root chain text with
        | follow target content =>
            rw [filterMap_sourceEvents_of_follow aimed rfl rfl]
            exact inductionHypothesis text target content aimed
              (FileTree.readAt_of_openAt (of_aim_follow aimed).2)
        | filtered _ | skipped _ | locked _ _ | fault _ =>
            rw [sourceEvents, aimed]
            rfl
      rw [filterMap_visit_eq_sources fun _ _ => rfl, sourcingsIn_eq,
        length_flatMap_cons behind, ← own]
      rfl

end Visit

/-! ## Accounts of outcomes -/

namespace Outcome

/-- Every outcome but a fault is counted once: as filtered out, as a file or as an
issue. -/
theorem length_eq
    {outcomes : List Outcome}
    (faultless : ∀ failure, .fault failure ∉ outcomes) :
    outcomes.length =
      outcomes.count .filtered + (outcomes.filterMap file?).length +
        (outcomes.filterMap issue?).length := by
  induction outcomes with
  | nil => rfl
  | cons outcome rest inductionHypothesis =>
      have counted := inductionHypothesis fun failure member =>
        faultless failure (List.mem_cons_of_mem _ member)
      cases outcome with
      | fault failure => exact absurd List.mem_cons_self (faultless failure)
      | filtered | issue _ | opened _ =>
          simp only [List.length_cons, List.count_cons, List.filterMap_cons, file?,
            issue?, counted, beq_self_eq_true, if_true, reduceCtorEq,
            beq_iff_eq, if_false]
          omega

end Outcome

section Run

variable {tree : FileTree} {settings : Settings} {entry : Path} {result : Result}

theorem filtered_not_mem_outcomes (all : settings.includeAll = true) :
    .filtered ∉ outcomes tree settings entry := by
  intro member
  obtain ⟨line, -, outcome⟩ := List.mem_map.mp member
  unfold Sourcing.outcome at outcome
  split at outcome
  next filtered => exact aim_ne_filtered all _ _ _ _ filtered
  all_goals cases outcome

/-- No `source` line disappears.  Every line that is processed has one outcome, which is
no fault; the files of the result are the entry file and those that the outcomes open,
its issues are those that they record, and its directories are the parents of the files
that they open.  As many lines are processed as there are in the files of the result.
So these are as many as are filtered out, as there are files besides the entry file, and
as there are issues; and none is filtered out if every target is followed. -/
theorem source_lines_accounted (returned : (run tree settings entry).1 = .ok result) :
    (∀ failure, .fault failure ∉ outcomes tree settings entry) ∧
      (∃ file,
        tree.realLocation entry = .ok file ∧
          result.files = file.path :: (outcomes tree settings entry).filterMap
            Outcome.file?) ∧
      result.issues = (outcomes tree settings entry).filterMap Outcome.issue? ∧
      (∀ directory, directory ∈ result.sourceDirectories ↔
        directory ∈ (outcomes tree settings entry).filterMap Outcome.sourceDirectory?) ∧
      (outcomes tree settings entry).length =
        sourceCount tree settings.skipHelp result.files ∧
      sourceCount tree settings.skipHelp result.files =
        (outcomes tree settings entry).count .filtered + (result.files.length - 1) +
          result.issues.length ∧
      (settings.includeAll = true →
        sourceCount tree settings.skipHelp result.files =
          (result.files.length - 1) + result.issues.length) := by
  obtain ⟨file, bytes, opened, noFaults, resultEq⟩ := run_eq_ok_iff.mp returned
  obtain ⟨located, readable⟩ := openEntry_eq_ok_iff.mp opened
  have outcomesEq : outcomes tree settings entry =
      (sourcingsIn tree settings (chooseRoot tree settings entry).1 [file] file
        bytes).map
          (Sourcing.outcome tree settings (chooseRoot tree settings entry).1) := by
    rw [outcomes, sourcings, opened]
  have gives {α : Type} {select : Event → Option α} {give : Outcome → Option α}
      (selectEq : ∀ event, select event = event.outcome?.bind give) :=
    outcomesEq ▸ @filterMap_visit_of_outcome tree settings
      (chooseRoot tree settings entry).1 α select give selectEq [file] file bytes
  have faultless : ∀ failure, .fault failure ∉ outcomes tree settings entry := by
    intro failure member
    have faults := @gives _ Event.fault? Outcome.fault? (by rintro ⟨⟩ <;> rfl)
    rw [List.filterMap_eq_nil_iff.mpr noFaults] at faults
    have none : failure ∈ (outcomes tree settings entry).filterMap Outcome.fault? :=
      List.mem_filterMap.mpr ⟨_, member, rfl⟩
    rw [(List.append_eq_nil_iff.mp faults.symm).2] at none
    cases none
  have files : result.files =
      file.path :: (outcomes tree settings entry).filterMap Outcome.file? :=
    resultEq ▸ @gives _ Event.file? Outcome.file? (by rintro ⟨⟩ <;> rfl)
  have issues : result.issues = (outcomes tree settings entry).filterMap
      Outcome.issue? :=
    resultEq ▸ @gives _ Event.issue? Outcome.issue? (by rintro ⟨⟩ <;> rfl)
  have counted : (outcomes tree settings entry).length =
      sourceCount tree settings.skipHelp result.files := by
    rw [outcomesEq, List.length_map, resultEq]
    exact length_sourcingsIn [file] (FileTree.readAt_of_openAt readable)
  have balance : sourceCount tree settings.skipHelp result.files =
      (outcomes tree settings entry).count .filtered + (result.files.length - 1) +
        result.issues.length := by
    rw [← counted, Outcome.length_eq faultless, files, issues]
    rfl
  refine ⟨faultless, ⟨file, located, files⟩, issues, ?_, counted, balance, ?_⟩
  · intro directory
    rw [resultEq, Result.ofEvents, List.mem_eraseDups, outcomesEq]
    exact (filterMap_sourceDirectory?_visit [file] file bytes).mem_iff
  · intro all
    rw [balance, List.count_eq_zero.mpr (filtered_not_mem_outcomes all), Nat.zero_add]

/-- The two lines of two files that source each other open the inner
file and record an issue. -/
theorem source_lines_accounted_nested :
    (run nestedTree nestedSettings ⟨.working, ["out"]⟩).1 =
      .ok (Result.ofEvents nestedEvents) ∧
      (Result.ofEvents nestedEvents).files.length = 2 ∧
      (Result.ofEvents nestedEvents).issues.length = 1 ∧
      sourceCount nestedTree nestedSettings.skipHelp
        (Result.ofEvents nestedEvents).files = 2 :=
  ⟨run_nested, rfl, rfl, (source_lines_accounted run_nested).2.2.2.2.2.2 rfl⟩

end Run
end Resolution
end KernelInventory
