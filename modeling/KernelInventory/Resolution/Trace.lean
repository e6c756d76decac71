import KernelInventory.Resolution.Basic

/-!
# The trace of a resolution

A resolution is the list of its events in the order in which they happen; the events of
a sourced file stand in the place of its `source` line.  Which files are read, which
components are found and which issues are met are all read off this list.

The files being read form a chain without repetition, so files nest no deeper than there
are entries in the tree.
-/

namespace KernelInventory

namespace FileTree

/-- The locations that are not on a chain. -/
def freshLocations (tree : FileTree) (chain : List Location) : List Location :=
  tree.locations.filter (· ∉ chain)

/-- A file that can be read is an entry of its tree. -/
theorem mem_locations_of_readAt {tree : FileTree} {target : Location}
    {bytes : List UInt8} (readable : tree.readAt target = .ok bytes) : target ≠ [] ∧
      target ∈ tree.locations := by
  have nonempty : target ≠ [] := by
    rintro rfl
    simp [readAt, Node.openDirectory] at readable
  refine ⟨nonempty, ?_⟩
  cases found : tree.node? target with
  | none => simp [readAt, found] at readable
  | some node => exact mem_locations_of_node? nonempty found

theorem freshLocations_lt {tree : FileTree} {chain : List Location} {target : Location}
    {bytes : List UInt8} (fresh : target ∉ chain)
    (opened : tree.openAt target = .ok bytes) :
    (tree.freshLocations (target :: chain)).length <
      (tree.freshLocations chain).length := by
  have member := (mem_locations_of_readAt (readAt_of_openAt opened)).2
  have split : tree.freshLocations (target :: chain) =
      (tree.freshLocations chain).filter (· ≠ target) := by
    simp only [freshLocations, List.filter_filter, List.mem_cons, not_or,
      Bool.decide_and]
  rw [split]
  refine List.length_filter_lt_length_iff_exists.2 ⟨target, ?_, by simp⟩
  exact List.mem_filter.2 ⟨member, by simpa using fresh⟩

end FileTree

namespace Resolution

/-- What happens in a resolution. -/
inductive Event
  /-- A file is opened. -/
  | opened (file : Location)
  /-- A line of a file changes the table. -/
  | effect (file : Location) (change : Stanza.Effect)
  /-- A target is not followed. -/
  | filtered (target : Location)
  /-- A target is about to be opened. -/
  | entering (target file : Location)
  /-- A `source` line is given up. -/
  | skipped (file : Location) (cause : SkipCause)
  /-- A target has been read to its end. -/
  | finished (target : Location)
  /-- The resolution cannot go on. -/
  | fault (failure : FileFailure)
deriving Repr, DecidableEq

/-- The events of reading a file while the files of `chain`, itself among
them, are being read. -/
def visit (tree : FileTree) (settings : Settings) (root : Path) (chain : List Location)
    (file : Location) (bytes : List UInt8) : List Event :=
  let lines := Text.lines (Text.Utf8.decode bytes)
  .opened file :: (Stanza.entries settings.skipHelp lines).flatMap fun entry =>
    match entry with
    | .effect change => [.effect file change]
    | .source text =>
      match _ : aim tree settings root chain text with
      | .filtered target => [.filtered target]
      | .skipped cause => [.skipped file cause]
      | .locked target error =>
          [.entering target file, .skipped file (.unreadable target error)]
      | .follow target content =>
        .entering target file ::
          visit tree settings root (target :: chain) target
            content ++ [.finished target]
      | .fault failure => [.fault failure]
termination_by (tree.freshLocations chain).length
decreasing_by
  next followed =>
    obtain ⟨fresh, opened⟩ := of_aim_follow followed
    exact FileTree.freshLocations_lt fresh opened

namespace Event

/-- The failure of an event that ends the resolution. -/
def fault? : Event → Option FileFailure
  | fault failure => some failure
  | _ => none

/-- The change of the table by an event. -/
def apply (table : Table) : Event → Table
  | effect file change => change.apply (some file.path.toString) table
  | _ => table

/-- The file that an event opens. -/
def file? : Event → Option Path
  | opened file => some file.path
  | _ => none

/-- The issue that an event records. -/
def issue? : Event → Option Issue
  | skipped file cause => some ⟨file.path.toString, cause.message⟩
  | _ => none

/-- The directory that an event makes a candidate for source code. -/
def sourceDirectory? : Event → Option Path
  | finished target => some target.path.parent
  | _ => none

/-- What is logged about an event, given the table before it. -/
def log (table : Table) : Event → List LogEntry
  | effect file change => change.log (some file.path.toString) table
  | filtered target => [⟨.debug, s!"Skipping non-arch source (path={target.path})"⟩]
  | entering target file =>
    [⟨.info, s!"Entering Kconfig (path={target.path} from={file.path})"⟩]
  | skipped file cause =>
    [⟨.warning,
      s!"Skipping Kconfig branch (file_path={file.path} error={cause.message})"⟩]
  | _ => []

end Event

/-- The events before the first one that ends the resolution. -/
def beforeFault (events : List Event) : List Event :=
  events.takeWhile fun event => event.fault?.isNone

/-- The table after events. -/
def tableAfter (table : Table) (events : List Event) : Table :=
  events.foldl Event.apply table

/-- What is logged about events, given the table before them. -/
def logFrom (table : Table) : List Event → List LogEntry
  | [] => []
  | event :: rest => event.log table ++ logFrom (event.apply table) rest

end Resolution
end KernelInventory
