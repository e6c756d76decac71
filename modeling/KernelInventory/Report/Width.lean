import KernelInventory.Text.Cells
import KernelInventory.Text.Search

/-!
# Fitting text into cells

Cutting, padding and folding texts to a number of terminal cells, and replacing tabs.  A
text is cut and folded between its clusters.
-/

namespace KernelInventory
namespace Report

/-- The number of cells in a line of a report. -/
def pageWidth : Nat := 80

/-- A number of blanks. -/
def blanks (count : Nat) : List Char := List.replicate count ' '

/-- The longest beginning of clusters that takes no more than the given cells. -/
def takeCells (width : Nat) : List Text.Cluster → List Text.Cluster
  | [] => []
  | cluster :: rest =>
    if cluster.cells ≤ width then cluster :: takeCells (width - cluster.cells) rest
    else []

/-- A text cut or padded to the given cells; half of a wide cluster is a blank. -/
def setCells (width : Nat) (text : List Char) : List Char :=
  let taken := Text.cells text
  if taken ≤ width then text ++ blanks (width - taken)
  else
    let cut := takeCells width (Text.Cluster.read text)
    Text.Cluster.join cut ++ blanks (width - Text.Cluster.total cut)

/-- The places at which clusters go on in a new line, when `used` cells of the first
line are taken and the first cluster stands at a position. -/
def breaksFrom (width used position : Nat) : List Text.Cluster → List Nat
  | [] => []
  | cluster :: rest =>
    let next := position + cluster.text.length
    if width < used + cluster.cells then
      position :: breaksFrom width cluster.cells next rest
    else breaksFrom width (used + cluster.cells) next rest

/-- The places at which a text goes on in a new line. -/
def breaks (width : Nat) (text : List Char) : List Nat :=
  if Text.cells text ≤ width then [] else breaksFrom width 0 0 (Text.Cluster.read text)

/-- A text at the left of the given cells. -/
def alignLeft (width : Nat) (text : List Char) : List Char :=
  text ++ blanks (width - Text.cells text)

/-- A text at the right of the given cells. -/
def alignRight (width : Nat) (text : List Char) : List Char :=
  blanks (width - Text.cells text) ++ text

/-! ## Pieces of a line -/

/-- The cells of pieces that are shown one after the other. -/
def pieceCells (pieces : List (List Char)) : Nat :=
  pieces.foldr (Text.cells · + ·) 0

/-- Pieces cut off where the given cells end. -/
def cropPieces (width : Nat) : List (List Char) → List (List Char)
  | [] => []
  | piece :: rest =>
    let taken := Text.cells piece
    if taken < width then piece :: cropPieces (width - taken) rest
    else [setCells width piece]

/-- Pieces that take no more than the given cells. -/
def limitPieces (width : Nat) (pieces : List (List Char)) : List (List Char) :=
  if width < pieceCells pieces then cropPieces width pieces else pieces

/-- Pieces that fill the given cells. -/
def fitPieces (width : Nat) (pieces : List (List Char)) : List (List Char) :=
  if pieceCells pieces < width then pieces ++ [blanks (width - pieceCells pieces)]
  else limitPieces width pieces

/-! ## Tabs -/

/-- Tabs end at multiples of this many cells. -/
def tabCells : Nat := 8

/-- The parts of a line, each of which but the last ends in a tab. -/
def tabParts : List Char → List (List Char)
  | [] => [[]]
  | c :: rest =>
    if c = '\t' then ['\t'] :: tabParts rest
    else
      match tabParts rest with
      | [] => [[c]]
      | part :: others => (c :: part) :: others

/-- Replace the tab of each part by one blank and as many more as lead to the next tab
stop, when the first part stands behind the given cells. -/
def expandParts (position : Nat) : List (List Char) → List (List Char)
  | [] => []
  | part :: rest =>
    if part.getLast? = some '\t' then
      let shown := part.dropLast ++ [' ']
      let after := position + Text.cells shown
      let more := (tabCells - after % tabCells) % tabCells
      (shown ++ blanks more) :: expandParts (after + more) rest
    else part :: expandParts (position + Text.cells part) rest

/-- Replace the tabs of a line. -/
def expandLine (line : List Char) : List Char :=
  (expandParts 0 (tabParts line)).flatten

/-- Replace the tabs of a text, line by line. -/
def expandTabs (text : List Char) : List Char :=
  List.intercalate ['\n'] ((Text.splitOn '\n' text).map expandLine)

end Report
end KernelInventory
