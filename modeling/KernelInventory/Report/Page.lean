import KernelInventory.Code.LineCount
import KernelInventory.Component.Table
import KernelInventory.Report.Accent
import KernelInventory.Report.Markup
import KernelInventory.Text.Quoted

/-!
# Reports

The parts of a report are a rule with a title, the grid of component names, the table
of line counts and the details of one component.  Each is a list of lines; a printed
text ends in a line feed.

A report is given without the escape sequences of a terminal.  The colours of rules,
titles and tags, and the hyperlinks of tags such as `[link=https://kernel.org]`, whose
identifiers are random numbers, are no part of it; only the text between them is.
-/

namespace KernelInventory
namespace Report

/-- Lines as printed. -/
def printLines (lines : List (List Char)) : String :=
  String.ofList (lines.flatMap (· ++ ['\n']))

/-- A styled text, if its styles can be looked up. -/
def checked (styled : Styled) : Except Markup.Failure Styled :=
  match styled.check with
  | .ok () => .ok styled
  | .error fault => .error (.colour fault)

/-! ## Rules -/

/-- The line of a rule around a title. -/
def ruleAround (title : Styled) : Styled :=
  let flat := title.withText (title.text.map fun c => if c = '\n' then ' ' else c)
  let fitted := flat.expandTabs.ellipsize (pageWidth - 4)
  let width := Text.cells fitted.text
  let side := (pageWidth - width) / 2
  let left := List.replicate (side - 1) '-' ++ [' ']
  let right :=
    ' ' :: List.replicate (min (pageWidth - (side - 1) - width) (side + 1)) '-'
  let middle := left.length + fitted.text.length
  let whole : Styled :=
    { text := left ++ fitted.text ++ right
      spans := ⟨0, left.length, none⟩ :: (fitted.padLeft left).spans ++
        [⟨middle, middle + right.length, none⟩] }
  whole.withText (setCells pageWidth whole.text)

/-- A rule with a rendered title in its middle. -/
def ruleLine (title : Styled) : Except Markup.Failure String := do
  let line ← checked (ruleAround title)
  return printLines [(limitPieces pageWidth line.pieces).flatten]

/-- A rule with a title in its middle, without its colours. -/
def rule (title : String) : Except Markup.Failure String := do
  ruleLine (← Markup.render title).accented

/-! ## Grids -/

/-- A horizontal line of a grid. -/
def border (left middle right stroke : Char) (widths : List Nat) : List Char :=
  left :: List.intercalate [middle] (widths.map (List.replicate · stroke)) ++ [right]

/-- A row of cells of a grid, which have been fitted to their columns. -/
def row (stroke : Char) (cells : List (List Char)) : List Char :=
  stroke :: cells.flatMap fun cell => cell ++ [stroke]

/-- A cell with a blank on each side. -/
def spaced (cell : List Char) : List Char :=
  ' ' :: cell ++ [' ']

/-- The lines of the head of a grid. -/
def head (widths : List Nat) (titles : List (List Char)) : List (List Char) :=
  [border '┏' '┳' '┓' '━' widths, row '┃' titles, border '┡' '╇' '┩' '━' widths]

/-- The last line of a grid. -/
def bottom (widths : List Nat) : List Char :=
  border '└' '┴' '┘' '─' widths

/-! ## Component names -/

/-- The width of the left column of the component grid, with one blank on each side. -/
def leftWidth : Nat := 39

/-- The width of the right column of the component grid, with one blank on each side. -/
def rightWidth : Nat := 38

/-- The widths of the columns of the component grid. -/
def componentWidths : List Nat := [leftWidth, rightWidth]

/-- A line of a cell as it fills a column, with one blank on each side. -/
def cellLine (width : Nat) (line : Styled) : List Char :=
  let inner := fitPieces (width - 2) (line.center (width - 2)).pieces
  (fitPieces width ([' '] :: inner ++ [[' ']])).flatten

/-- The lines of a name in a column. -/
def cellLines (width : Nat) (name : Styled) :
    Except Markup.Failure (List (List Char)) := do
  let lines ← (name.fold (width - 2)).mapM checked
  return lines.map (cellLine width)

/-- The lines of two names side by side. -/
def pairRows (left right : Styled) : Except Markup.Failure (List (List Char)) := do
  let lefts ← cellLines leftWidth left
  let rights ← cellLines rightWidth right
  return (List.range (max lefts.length rights.length)).map fun index =>
    row '│' [lefts[index]?.getD (blanks leftWidth),
      rights[index]?.getD (blanks rightWidth)]

/-- Names in two columns; the last one on the right may be missing. -/
def columns : List String → List String × List String
  | left :: right :: rest =>
    let (lefts, rights) := columns rest
    (left :: lefts, right :: rights)
  | [left] => ([left], [""])
  | [] => ([], [])

/-- The lines of names in two columns.  All names of a column are read before those of
the next one; then the lines are made from top to bottom. -/
def nameRows (names : List String) : Except Markup.Failure (List (List Char)) := do
  let (lefts, rights) := columns names
  let shownLefts ← lefts.mapM Markup.render
  let shownRights ← rights.mapM Markup.render
  let rows ← (shownLefts.zip shownRights).mapM fun (left, right) => pairRows left right
  return rows.flatten

/-- The grid of component names, without the colours and hyperlinks of their tags. -/
def componentGrid (names : List String) : Except Markup.Failure String := do
  let rows ← nameRows names
  let titles := componentWidths.map fun width =>
    cellLine width { text := "Component".toList }
  return printLines (head componentWidths titles ++ rows ++ [bottom componentWidths])

/-! ## Line counts -/

/-- The widths of the columns of the line table, with one blank on each side. -/
def lineWidths : List Nat := [32, 11, 11, 10, 10]

/-- One row of the line table. -/
def lineCells (label : String) (numbers : List String) : List (List Char) :=
  match lineWidths with
  | first :: others =>
    spaced (alignLeft (first - 2) label.toList) ::
      (others.zip numbers).map fun (width, number) =>
        spaced (alignRight (width - 2) number.toList)
  | [] => []

/-- The numbers of a count. -/
def countNumbers (count : LineCount) : List String :=
  [count.files, count.blank, count.comment, count.code].map toString

/-- The table of line counts, largest categories first, with their sum. -/
def lineTable (statistics : LineStatistics) : String :=
  let body := (LineStatistics.sorted statistics).map fun (type, count) =>
    row '│' (lineCells type.label (countNumbers count))
  let divider := if body.isEmpty then [] else [border '├' '┼' '┤' '─' lineWidths]
  let sum := row '│' (lineCells "SUM:" (countNumbers (LineStatistics.total statistics)))
  printLines
    (head lineWidths (lineCells "Language" ["files", "blank", "comment", "code"]) ++
    body ++ divider ++ [sum, bottom lineWidths])

/-! ## Details -/

/-- A text without markup as printed: its lines are kept as they are. -/
def plain (text : String) : String :=
  printLines [expandTabs (Markup.shown text.toList)]

/-- The details of a component, without its code. -/
def details (record : Record) : String :=
  "\n".intercalate
    [s!"Component: {record.name}",
      s!"  Value Type: {record.kind.label}",
      s!"  Occurrences: {record.occurrences}",
      s!"  Depends on: {Text.quotedList record.depends}",
      s!"  Default value: {Text.quotedList record.defaults}",
      s!"  Select: {Text.quotedList record.selects}",
      s!"  Declared in: {Text.quotedList record.files}",
      s!"  Code snippets: {record.snippets.length}"]

/-- A block of code under a rule with its number. -/
def snippet (number : Nat) (text : String) : String :=
  printLines [(ruleAround { text := s!"snippet {number}".toList }).text] ++ plain text

/-- The details of a component with all its code. -/
def component (record : Record) : String :=
  plain (details record) ++
    String.join (record.snippets.mapIdx fun index text => snippet (index + 1) text)

end Report
end KernelInventory
