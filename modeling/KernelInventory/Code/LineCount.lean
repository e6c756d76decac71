import KernelInventory.Code.FileType
import KernelInventory.Text.Blank
import KernelInventory.Text.Lines
import KernelInventory.Walk

/-!
# Counting lines

Every line of a file is blank, a comment or code.  A comment is recognised by how
the line starts, whatever the language.  Counting a directory adds up the lines
of its files by category.
-/

namespace KernelInventory

/-- Numbers of files and of their lines.  A count may correct another one that it is
added to, and so its numbers may be negative. -/
structure LineCount where
  files : Int := 0
  blank : Int := 0
  comment : Int := 0
  code : Int := 0
deriving Repr, DecidableEq

namespace LineCount

/-- Add two counts. -/
def add (left right : LineCount) : LineCount :=
  ⟨left.files + right.files, left.blank + right.blank, left.comment + right.comment,
    left.code + right.code⟩

instance : Add LineCount := ⟨add⟩

/-- The class of a line. -/
inductive LineClass
  | blank
  | comment
  | code
deriving Repr, DecidableEq

/-- The texts that a comment line may start with. -/
def commentMarks : List String := ["//", "/*", "*", "#", ";"]

/-- The class of a line, blanks at its ends apart. -/
def classify (line : List Char) : LineClass :=
  let trimmed := Text.trim line
  if trimmed.isEmpty then .blank
  else if commentMarks.any fun mark => mark.toList.isPrefixOf trimmed then .comment
  else .code

/-- The count of a single line. -/
def ofClass : LineClass → LineCount
  | .blank => { blank := 1 }
  | .comment => { comment := 1 }
  | .code => { code := 1 }

/-- The count of a file with a text. -/
def ofText (text : List Char) : LineCount :=
  (Text.lines text).foldl (fun count line => count + ofClass (classify line))
  { files := 1 }

/-- The count of the file that a path leads to. -/
def ofFile (tree : FileTree) (path : Path) : Except FileFailure LineCount :=
  (tree.readText path).map ofText

end LineCount

/-- Counts by category, in the order in which the categories were first met. -/
abbrev LineStatistics := List (FileType × LineCount)

namespace LineStatistics

/-- Add a count to its category. -/
def add (statistics : LineStatistics) (type : FileType) (count : LineCount) :
    LineStatistics :=
  match statistics with
  | [] => [(type, count)]
  | (first, sum) :: rest =>
    if first = type then (first, sum + count) :: rest
    else (first, sum) :: add rest type count

/-- The statistics of counts that are added one by one. -/
def ofCounts (counts : List (FileType × LineCount)) : LineStatistics :=
  counts.foldl (fun statistics (type, count) => add statistics type count) []

/-- The categories by lines of code, largest first; those with equally
many keep their order. -/
def sorted (statistics : LineStatistics) : LineStatistics :=
  statistics.mergeSort fun left right => right.2.code ≤ left.2.code

/-- The sum over all categories. -/
def total (statistics : LineStatistics) : LineCount :=
  statistics.foldl (fun sum entry => sum + entry.2) {}

/-- What happens while a directory is counted. -/
inductive Event
  /-- A file is counted. -/
  | counted (type : FileType) (count : LineCount)
  /-- A file cannot be opened. -/
  | unreadable (path : Path) (failure : FileFailure)
  /-- The walk comes upon something that is not counted. -/
  | passed (finding : Walk.Finding)
deriving Repr, DecidableEq

namespace Event

/-- The event of what a walk comes upon. -/
def ofFinding (tree : FileTree) : Walk.Finding → Event
  | .file path =>
    match LineCount.ofFile tree path with
    | .ok count => counted (FileType.ofPath path) count
    | .error (.refused error place) => unreadable path (.refused error place)
    | .error failure => passed (.fault failure)
  | finding => passed finding

/-- The failure of an event that ends the count. -/
def fault? : Event → Option FileFailure
  | passed finding => finding.fault?
  | _ => none

/-- What an event adds to the statistics. -/
def count? : Event → Option (FileType × LineCount)
  | counted type count => some (type, count)
  | _ => none

/-- What is logged about an event. -/
def log : Event → List LogEntry
  | unreadable path failure =>
      [⟨.error, s!"Cannot read file (path={path} error={failure})"⟩]
  | passed finding => finding.log
  | counted .. => []

end Event

/-- Count the lines of the files in a directory: the statistics or the
failure, and the log. -/
def ofDirectory (tree : FileTree) (exclusion : Option Exclusion) (base : Option Path)
    (root : Path) : Except FileFailure LineStatistics × List LogEntry :=
  let all := (Walk.findings tree exclusion base root).map (Event.ofFinding tree)
  let events := all.takeWhile fun event => event.fault?.isNone
  let log := events.flatMap Event.log
  match all.findSome? Event.fault? with
  | some failure => (.error failure, log)
  | none =>
    let statistics := ofCounts (events.filterMap Event.count?)
    let files := (total statistics).files
    (.ok statistics,
      log ++ [⟨.info, s!"Line count completed (root={root} files={files})"⟩])

end LineStatistics
end KernelInventory
