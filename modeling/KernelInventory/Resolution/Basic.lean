import KernelInventory.FileTree.Canonical
import KernelInventory.Stanza.Entry
import KernelInventory.Text.Lines

/-!
# Following source lines

Resolving a configuration file reads its stanzas and follows its `source` lines into
other files. A target is found from the kernel root, and it is followed unless it
lies outside the architecture part of the tree, is being read already, or cannot be
found or read.  `aim` decides which of these holds of one target; it is the only
place that looks at the file tree.
-/

namespace KernelInventory
namespace Resolution

/-- How a resolution is to be done. -/
structure Settings where
  /-- The kernel version, which the name of the kernel root ends in. -/
  version : String
  /-- Follow every target, wherever it lies. -/
  includeAll : Bool := false
  /-- The directory that targets are found from, if it is not to be looked for. -/
  kernelRoot : Option Path := none
  /-- Ignore the text of help blocks. -/
  skipHelp : Bool := false
  /-- The text that marks the path of a target in the architecture part of the tree. -/
  archMarker : String := "/arch/"
deriving Repr, DecidableEq

/-- The nearest directory above a file that is named for a kernel version,
as its path is written. -/
def findKernelRoot (tree : FileTree) (entry : Path) (version : String) : Option Path :=
  (entry.absolute tree.home).ancestors.find? fun directory =>
    directory.name = "linux-" ++ version

/-- Why a `source` line was given up. -/
inductive SkipCause
  | unresolved (target : String) (failure : FileFailure)
  | cycle (target : Location)
  | unreadable (target : Location) (error : SystemError)
deriving Repr, DecidableEq

namespace SkipCause

/-- The wording of a cause. -/
def message : SkipCause → String
  | unresolved target failure =>
      s!"cannot resolve source {Text.quoted target}: {failure}"
  | cycle target => s!"source cycle through {target.path}"
  | unreadable target error =>
    let failure := FileFailure.refused error target.path.toString
    s!"cannot read {target.path}: {failure}"

end SkipCause

/-- What is to be done about a `source` line. -/
inductive Aim
  /-- The target lies outside the architecture part of the tree. -/
  | filtered (target : Location)
  /-- The line is given up before its target is entered. -/
  | skipped (cause : SkipCause)
  /-- The target cannot be opened. -/
  | locked (target : Location) (error : SystemError)
  /-- The target is to be read. -/
  | follow (target : Location) (bytes : List UInt8)
  /-- The target is no path at all, which ends the whole resolution. -/
  | fault (failure : FileFailure)
deriving Repr, DecidableEq

/-- Whether a target is to be followed if it can be. -/
def selected (settings : Settings) (target : Location) : Bool :=
  settings.includeAll ||
    Text.contains target.path.toString.toList settings.archMarker.toList

/-- What is to be done about a target while the files of `chain` are being read. -/
def aim (tree : FileTree) (settings : Settings) (root : Path) (chain : List Location)
    (text : String) : Aim :=
  match tree.realLocation (root / Path.ofString text) with
  | .error .nullByte => .fault .nullByte
  | .error failure => .skipped (.unresolved text failure)
  | .ok target =>
    if !selected settings target then .filtered target
    else if target ∈ chain then .skipped (.cycle target)
    else
      match tree.openAt target with
      | .error error => .locked target error
      | .ok bytes => .follow target bytes

/-- A target that is followed is not being read already, and stands in the tree. -/
theorem of_aim_follow {tree : FileTree} {settings : Settings} {root : Path}
    {chain : List Location} {text : String} {target : Location} {bytes : List UInt8}
    (followed : aim tree settings root chain text = .follow target bytes) :
    target ∉ chain ∧ tree.openAt target = .ok bytes := by
  unfold aim at followed
  split at followed
  · cases followed
  · cases followed
  · split at followed
    · cases followed
    · split at followed
      · cases followed
      next fresh =>
        split at followed
        · cases followed
        next opened =>
          injection followed with sameTarget sameBytes
          subst sameTarget
          subst sameBytes
          exact ⟨fresh, opened⟩

end Resolution
end KernelInventory
