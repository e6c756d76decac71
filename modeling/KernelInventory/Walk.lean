import KernelInventory.Exclusion
import KernelInventory.FileTree.Canonical
import KernelInventory.Log

/-!
# Walking a directory

A walk visits a directory level by level: all files and directories at one depth before
anything deeper, and each directory in the order of its names.  What an exclusion skips
is not entered; links are followed to files but not to directories; and a directory that
cannot be listed is reported and left out.

The walk is the list of its findings.  An entry that cannot be inspected ends the walk.
-/

namespace KernelInventory

namespace FileTree

/-- The depth of the deepest entry. -/
def height (tree : FileTree) : Nat :=
  (tree.locations.map List.length).foldl max 0

end FileTree

namespace Walk

/-- What a walk comes upon. -/
inductive Finding
  /-- The start of the walk does not lie in the directory that patterns are relative
  to. -/
  | outside (root base : Path)
  /-- A regular file. -/
  | file (path : Path)
  /-- A directory to be entered, with the names that lead to it from the start of the
  walk. -/
  | directory (below : List String)
  /-- A directory that cannot be listed. -/
  | unreadable (path : Path) (failure : FileFailure)
  /-- The walk cannot go on. -/
  | fault (failure : FileFailure)
deriving Repr, DecidableEq

namespace Finding

/-- The failure of a finding that ends the walk. -/
def fault? : Finding → Option FileFailure
  | fault failure => some failure
  | _ => none

/-- The file of a finding. -/
def file? : Finding → Option Path
  | file path => some path
  | _ => none

/-- The directory that a finding asks to enter. -/
def directory? : Finding → Option (List String)
  | directory below => some below
  | _ => none

/-- What is logged about a finding. -/
def log : Finding → List LogEntry
  | outside root base =>
    [⟨.warning, s!"Walk root outside match base (root={root} base={base})"⟩]
  | unreadable path failure =>
    [⟨.error, s!"Cannot read directory (path={path} error={failure})"⟩]
  | _ => []

end Finding

/-- What a walk is about: where it starts, what it leaves out, and the names that stand
in front of what is matched against the patterns. -/
structure Scope where
  root : Path
  exclusion : Option Exclusion
  lead : List String
deriving Repr, DecidableEq

namespace Scope

/-- The path of an entry below the start of the walk. -/
def path (scope : Scope) (below : List String) : Path :=
  scope.root.descend below

/-- Whether the exclusion skips an entry. -/
def skips (scope : Scope) (below : List String) (directory : Bool) : Bool :=
  match scope.exclusion with
  | none => false
  | some exclusion =>
      exclusion.skips (Path.toString ⟨.working, scope.lead ++ below⟩) directory

end Scope

/-- Whether a path is a directory itself, and not a link to one. -/
def isRealDirectory (tree : FileTree) (path : Path) : Except FileFailure Bool := do
  if ← tree.isDirectory path then
    return !(← tree.isLink path)
  else
    return false

/-- What an entry of a listed directory is to the walk. -/
def inspect (tree : FileTree) (scope : Scope) (below : List String) : List Finding :=
  let path := scope.path below
  match isRealDirectory tree path with
  | .error failure => [.fault failure]
  | .ok directory =>
    if scope.skips below directory then []
    else if directory then [.directory below]
    else
      match tree.isFile path with
      | .error failure => [.fault failure]
      | .ok regular => if regular then [.file path] else []

/-- The findings in one directory, in the order of its names. -/
def scan (tree : FileTree) (scope : Scope) (below : List String) : List Finding :=
  let path := scope.path below
  match tree.list path with
  | .error (.refused error place) => [.unreadable path (.refused error place)]
  | .error failure => [.fault failure]
  | .ok names => names.flatMap fun name => inspect tree scope (below ++ [name])

/-- The findings in directories of one depth and, for as many levels as
are left, below them. -/
def levels (tree : FileTree) (scope : Scope) : Nat → List (List String) → List Finding
  | 0, _ => []
  | depth + 1, directories =>
    let found := directories.flatMap (scan tree scope)
    match found.filterMap Finding.directory? with
    | [] => found
    | deeper => found ++ levels tree scope depth deeper

/-- The names that lead from the canonical base to the canonical start of the walk, none
if the start lies elsewhere. -/
def leadingNames (tree : FileTree) (root base : Path) :
    Except FileFailure (Option (List String)) :=
  let named := do
    let canonicalRoot ← tree.realPath root
    let canonicalBase ← tree.realPath base
    return canonicalRoot.below? canonicalBase
  match named with
  | .error (.linkLoop path) => .error (.linkLoop path)
  | .error _ => .ok none
  | .ok names => .ok names

/-- The findings of a walk. -/
def findings (tree : FileTree) (exclusion : Option Exclusion) (base : Option Path)
    (root : Path) : List Finding :=
  let walked (lead : List String) :=
    levels tree ⟨root, exclusion, lead⟩ (tree.height + 1) [[]]
  match base with
  | none => walked []
  | some base =>
    match leadingNames tree root base with
    | .error failure => [.fault failure]
    | .ok none => .outside root base :: walked []
    | .ok (some lead) => walked lead

/-- The failure that ends a walk, if one does. -/
def failure? (found : List Finding) : Option FileFailure :=
  found.findSome? Finding.fault?

/-- The findings before the walk ends. -/
def beforeFault (found : List Finding) : List Finding :=
  found.takeWhile fun finding => finding.fault?.isNone

/-- The files of a walk in order, or the failure that ends it, and the log. -/
def files (tree : FileTree) (exclusion : Option Exclusion) (base : Option Path)
    (root : Path) :
    Except FileFailure (List Path) × List LogEntry :=
  let found := findings tree exclusion base root
  let outcome :=
    match failure? found with
    | some failure => .error failure
    | none => .ok (found.filterMap Finding.file?)
  (outcome, (beforeFault found).flatMap Finding.log)

end Walk
end KernelInventory
