import KernelInventory.Resolution.Trace

/-!
# Resolving an entry file

The outcome of a resolution is the table of components, the files read, the
directories that may hold their source code, and the issues met.  Only the entry file
itself can make a resolution fail, apart from a loop of symbolic links in its path and
from paths that hold NUL.
-/

namespace KernelInventory
namespace Resolution

/-- What a resolution found. -/
structure Result where
  table : Table
  /-- The parents of the sourced files, each once. -/
  sourceDirectories : List Path
  /-- The files read, in order; a file that is sourced again is listed again. -/
  files : List Path
  issues : List Issue
deriving Repr, DecidableEq

/-- What a list of events amounts to. -/
def Result.ofEvents (events : List Event) : Result where
  table := tableAfter Table.empty events
  sourceDirectories := (events.filterMap Event.sourceDirectory?).eraseDups
  files := events.filterMap Event.file?
  issues := events.filterMap Event.issue?

/-- Why a resolution failed. -/
inductive Failure
  /-- The entry file cannot be found or opened. -/
  | unreadableEntry (entry : Path) (cause : FileFailure)
  /-- A path was met that nothing recovers from. -/
  | fault (failure : FileFailure)
deriving Repr, DecidableEq

namespace Failure

/-- The wording of a failure. -/
def message : Failure → String
  | unreadableEntry entry cause => s!"Cannot read Kconfig file {entry}: {cause}"
  | fault failure => failure.message

/-- The failure of the entry file for a cause: only what the file system
refuses is reported as such. -/
def ofEntry (entry : Path) : FileFailure → Failure
  | .refused error path => unreadableEntry entry (.refused error path)
  | failure => fault failure

end Failure

/-- The directory that targets are found from, and a warning if none is
named for the version. -/
def chooseRoot (tree : FileTree) (settings : Settings) (entry : Path) :
    Path × List LogEntry :=
  match settings.kernelRoot <|> findKernelRoot tree entry settings.version with
  | some root => (root, [])
  | none =>
    let root := (entry.absolute tree.home).parent
    (root,
      [⟨.warning, "Kernel root not found; resolving sources from entry directory " ++
      s!"(entry_file={entry} version={settings.version} root={root})"⟩])

/-- The location and the bytes of an entry file. -/
def openEntry (tree : FileTree) (entry : Path) :
    Except FileFailure (Location × List UInt8) :=
  match tree.realLocation entry with
  | .error failure => .error failure
  | .ok file =>
    match tree.openAt file with
    | .error error => .error (.refused error file.path.toString)
    | .ok bytes => .ok (file, bytes)

/-- The closing log entry of a resolution. -/
def completed (entry : Path) (result : Result) : LogEntry :=
  ⟨.info,
    s!"Kconfig resolution completed (entry_file={entry} files={result.files.length} " ++
    s!"components={result.table.size} source_dirs={result.sourceDirectories.length} " ++
    s!"issues={result.issues.length})"⟩

/-- Resolve an entry file and everything it sources: the result or the
failure, and the log. -/
def run (tree : FileTree) (settings : Settings) (entry : Path) :
    Except Failure Result × List LogEntry :=
  let (root, warnings) := chooseRoot tree settings entry
  match openEntry tree entry with
  | .error failure => (.error (.ofEntry entry failure), warnings)
  | .ok (file, bytes) =>
    let all := visit tree settings root [file] file bytes
    let events := beforeFault all
    let log := warnings ++ logFrom Table.empty events
    match all.findSome? Event.fault? with
    | some failure => (.error (.fault failure), log)
    | none =>
      let result := Result.ofEvents events
      (.ok result, log ++ [completed entry result])

end Resolution
end KernelInventory
