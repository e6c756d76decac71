import KernelInventory.FileTree.Lookup
import KernelInventory.Log
import KernelInventory.Text.Blank
import KernelInventory.Text.Lines

/-!
# The version of a kernel

The version stands in the top-level makefile, in assignments to three variables.  The
last assignment to a variable counts, and a line that starts with `#` assigns nothing.
-/

namespace KernelInventory
namespace KernelVersion

/-- The variables that make up a version, most significant first. -/
def keys : List String := ["VERSION", "PATCHLEVEL", "SUBLEVEL"]

/-- The value that a line assigns to a variable. -/
def assigned? (key : String) (line : List Char) : Option String :=
  let trimmed := Text.trim line
  let lead := (key ++ " = ").toList
  if trimmed.head? = some '#' then none
  else if lead.isPrefixOf trimmed then
    some (String.ofList (Text.trim (trimmed.drop lead.length)))
  else none

/-- The value of a variable in a makefile. -/
def value? (lines : List (List Char)) (key : String) : Option String :=
  (lines.filterMap (assigned? key)).getLast?

/-- Why a version cannot be told. -/
inductive Failure
  /-- The makefile cannot be opened. -/
  | unreadable (makefile : Path) (failure : FileFailure)
  /-- Some variables are never assigned. -/
  | missing (makefile : Path) (keys : List String)
  /-- The path of the makefile is no path at all. -/
  | fault (failure : FileFailure)
deriving Repr, DecidableEq

namespace Failure

/-- The wording of a failure. -/
def message : Failure → String
  | unreadable makefile failure => s!"Cannot read {makefile}: {failure}"
  | missing makefile keys =>
    let names := ", ".intercalate keys
    s!"Failed to read version information from {makefile} (missing={names})"
  | fault failure => failure.message

end Failure

/-- The version in the lines of a makefile, or the variables that are never assigned. -/
def ofLines (lines : List (List Char)) : Except (List String) String :=
  match keys.filter fun key => (value? lines key).isNone with
  | [] => .ok (".".intercalate (keys.filterMap (value? lines)))
  | missing => .error missing

/-- The version that a makefile states, and the log. -/
def ofMakefile (tree : FileTree) (makefile : Path) :
    Except Failure String × List LogEntry :=
  match tree.readText makefile with
  | .error (.refused error place) =>
      (.error (.unreadable makefile (.refused error place)), [])
  | .error failure => (.error (.fault failure), [])
  | .ok text =>
    match ofLines (Text.lines text) with
    | .error missing => (.error (.missing makefile missing), [])
    | .ok version =>
      (.ok version,
        [⟨.info, s!"Kernel version found (makefile={makefile} version={version})"⟩])

end KernelVersion
end KernelInventory
