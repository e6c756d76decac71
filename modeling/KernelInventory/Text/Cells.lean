import KernelInventory.Text.CellWidth

/-!
# Widths of texts in terminal cells

A text takes the cells of its characters, except that two characters shape an emoji.  A
joiner makes one emoji of what stands on its two sides, so that neither it nor the
character behind it takes a cell of its own.  A selector shows the character in front of
it as an emoji, which may widen that character by a cell.

A text is cut between clusters only: a character that takes cells, with what is attached
to it.
-/

namespace KernelInventory
namespace Text

/-- The character that joins two others into one emoji. -/
def joiner : Char := Char.ofNat 0x200D

/-- The character behind one that is to be shown as an emoji. -/
def emojiSelector : Char := Char.ofNat 0xFE0F

/-- The cells that a selector adds to the last character that took any. -/
def addedCells (last : Option Char) : Nat :=
  if last.any isWidened then 1 else 0

/-- The last character that took any cells, after one more. -/
def lastWide (last : Option Char) (c : Char) : Option Char :=
  if cellWidth c = 0 then last else some c

/-- The number of cells of a text behind a character that took cells. -/
def cellsBehind (last : Option Char) : List Char → Nat
  | [] => 0
  | c :: rest =>
    if c = joiner then
      match rest with
      | [] => 0
      | _ :: others => cellsBehind last others
    else if c = emojiSelector then addedCells last + cellsBehind none rest
    else cellWidth c + cellsBehind (lastWide last c) rest

/-- The number of cells that a text takes. -/
def cells (text : List Char) : Nat :=
  cellsBehind none text

@[simp] theorem cells_nil : cells [] = 0 := rfl

/-- Characters that are never cut apart, and the cells that they take. -/
structure Cluster where
  text : List Char
  cells : Nat
deriving Repr, DecidableEq

namespace Cluster

/-- A cluster with one more character, which takes no cell. -/
def attach (cluster : Cluster) (c : Char) : Cluster :=
  { cluster with text := cluster.text ++ [c] }

/-- A cluster whose character is shown as an emoji. -/
def select (cluster : Cluster) (last : Option Char) : Cluster :=
  { text := cluster.text ++ [emojiSelector], cells := cluster.cells + addedCells last }

/-- The cells of clusters side by side. -/
def total (clusters : List Cluster) : Nat :=
  clusters.foldr (·.cells + ·) 0

/-- The text of clusters side by side. -/
def join (clusters : List Cluster) : List Char :=
  clusters.flatMap Cluster.text

/-- The clusters of a text behind an unfinished one, whose last character
with any cells is known. -/
def readBehind (current : Cluster) (last : Option Char) : List Char → List Cluster
  | [] => [current]
  | c :: rest =>
    if c = joiner then
      match rest with
      | [] => [current.attach c]
      | d :: others => readBehind ((current.attach c).attach d) last others
    else if c = emojiSelector then
      readBehind (current.select last) (last.filter (!isWidened ·)) rest
    else if cellWidth c = 0 then readBehind (current.attach c) last rest
    else current :: readBehind ⟨[c], cellWidth c⟩ (some c) rest

/-- The clusters of a text. -/
def read : List Char → List Cluster
  | [] => []
  | c :: rest => readBehind ⟨[c], cellWidth c⟩ (lastWide none c) rest

end Cluster

/-- Reading clusters loses no character. -/
theorem Cluster.join_readBehind (current : Cluster) (last : Option Char)
    (text : List Char) :
    join (readBehind current last text) = current.text ++ text := by
  fun_induction readBehind current last text <;> simp_all [join, attach, select]

/-- The clusters of a text have its characters. -/
theorem Cluster.join_read (text : List Char) : join (read text) = text := by
  cases text with
  | nil => rfl
  | cons c rest => simp [read, join_readBehind]

end Text
end KernelInventory
