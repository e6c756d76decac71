import KernelInventory.Code.Guard
import KernelInventory.Component.Table
import KernelInventory.Text.Lines
import KernelInventory.Walk

/-!
# Correlating components with code

Every C source and header in the candidate directories is scanned for guarded blocks,
and each block is attached to the component that guards it.  A file that several
directories lead to is scanned once, which its canonical path decides.

Correlation is the list of its events; the counters, the issues, the log and the new
table are read off this list.
-/

namespace KernelInventory
namespace Correlation

/-- What happens in a correlation. -/
inductive Event
  /-- A file is scanned. -/
  | scanned (path : Path) (scan : Guard.Scan)
  /-- A file cannot be opened. -/
  | unreadable (path : Path) (failure : FileFailure)
  /-- The walk comes upon something that is not scanned. -/
  | passed (finding : Walk.Finding)
deriving Repr, DecidableEq

/-- Whether a path is that of a C source or header. -/
def isCode (path : Path) : Bool :=
  path.suffix = ".c" || path.suffix = ".h"

/-- Open and scan a file. -/
def scanFile (tree : FileTree) (known : String → Bool) (path : Path) : Event :=
  match tree.readText path with
  | .ok text => .scanned path (Guard.scan known (Text.lines text))
  | .error (.refused error place) => .unreadable path (.refused error place)
  | .error failure => .passed (.fault failure)

/-- The events of what walks come upon, when the files with the paths
`seen` have been scanned. -/
def eventsFrom (tree : FileTree) (known : String → Bool) (seen : List Path) :
    List Walk.Finding → List Event
  | [] => []
  | .file path :: rest =>
    if isCode path then
      match tree.realPath path with
      | .error failure => .passed (.fault failure) :: eventsFrom tree known seen rest
      | .ok canonical =>
        if canonical ∈ seen then eventsFrom tree known seen rest
        else scanFile tree known path :: eventsFrom tree known (canonical :: seen) rest
    else eventsFrom tree known seen rest
  | finding :: rest => .passed finding :: eventsFrom tree known seen rest

namespace Event

/-- The failure of an event that ends the correlation. -/
def fault? : Event → Option FileFailure
  | passed finding => finding.fault?
  | _ => none

/-- The blocks that an event attaches. -/
def blocks : Event → List Guard.Block
  | scanned _ scan => scan.blocks
  | _ => []

/-- The wording of a guard that is left open. -/
def unterminatedMessage (owner : String) (depth : Nat) : String :=
  s!"unterminated guard CONFIG_{owner} (depth={depth}); snippet dropped"

/-- The issue that an event records. -/
def issue? : Event → Option Issue
  | scanned path scan =>
    scan.unterminated.map fun (owner, depth) =>
      ⟨path.toString, unterminatedMessage owner depth⟩
  | unreadable path failure => some ⟨path.toString, failure.message⟩
  | passed _ => none

/-- What is logged about an event. -/
def log : Event → List LogEntry
  | scanned path scan =>
    scan.unterminated.toList.map fun (owner, depth) =>
      let message := unterminatedMessage owner depth
      ⟨.warning, s!"Dropping unterminated snippet (file_path={path} {message})"⟩
  | unreadable path failure =>
    [⟨.warning, s!"Skipping unreadable source (file_path={path} error={failure})"⟩]
  | passed finding => finding.log

/-- Whether an event is the scan of a file. -/
def isScan : Event → Bool
  | scanned .. => true
  | _ => false

end Event

/-- Attach a block to its component. -/
def attach (table : Table) (block : Guard.Block) : Table :=
  table.modify block.owner fun record => record.addSnippet block.text

/-- What a correlation found. -/
structure Result where
  filesScanned : Nat
  snippetCount : Nat
  totalLines : Nat
  issues : List Issue
deriving Repr, DecidableEq

/-- What a list of events amounts to. -/
def Result.ofEvents (events : List Event) : Result :=
  let blocks := events.flatMap Event.blocks
  { filesScanned := events.countP Event.isScan
    snippetCount := blocks.length
    totalLines := tally (fun block => snippetLineCount block.text) blocks
    issues := events.filterMap Event.issue? }

/-- What a correlation leaves behind: the result or the failure, the table and the
log. -/
structure Outcome where
  result : Except FileFailure Result
  table : Table
  log : List LogEntry

/-- The closing log entry of a correlation. -/
def completed (directories : Nat) (result : Result) : LogEntry :=
  ⟨.info,
    s!"Code correlation completed (dirs={directories} files={result.filesScanned} " ++
    s!"snippets={result.snippetCount} lines={result.totalLines})"⟩

/-- All that the walks of the candidate directories come upon, in the
order of the directories. -/
def findings (tree : FileTree) (exclusion : Option Exclusion) (base : Option Path)
    (directories : List Path) : List Walk.Finding :=
  (Path.sort directories).flatMap (Walk.findings tree exclusion base)

/-- Attach the guarded blocks of the code in the candidate directories. -/
def run (tree : FileTree) (exclusion : Option Exclusion) (base : Option Path)
    (table : Table) (directories : List Path) : Outcome :=
  let all :=
    eventsFrom tree table.contains [] (findings tree exclusion base directories)
  let events := all.takeWhile fun event => event.fault?.isNone
  let attached := (events.flatMap Event.blocks).foldl attach table
  let log := events.flatMap Event.log
  match all.findSome? Event.fault? with
  | some failure => ⟨.error failure, attached, log⟩
  | none =>
    let result := Result.ofEvents events
    ⟨.ok result, attached, log ++ [completed (Path.sort directories).length result]⟩

end Correlation
end KernelInventory
