import KernelInventory.Text.Search

/-!
# Blank characters, trimming and words

Text is analysed as a list of code points.  This module fixes which code points are
blank, and what it means to trim a text and to split it into words; every rule of the
library that speaks of white space goes through `isBlank`.

A tab advances to the next multiple of the tab size.  Columns are counted in code
points, and start again after a line feed or a carriage return.
-/

namespace KernelInventory
namespace Text

/-- The blank code points: the ASCII controls from tab to carriage return, the four
separators from U+001C on, the space, and the blanks of Unicode outside ASCII. -/
def isBlank (c : Char) : Bool :=
  let code := c.toNat
  (0x09 ≤ code && code ≤ 0x0D) || (0x1C ≤ code && code ≤ 0x20) || code == 0x85 ||
    code == 0xA0 || code == 0x1680 || (0x2000 ≤ code && code ≤ 0x200A) ||
      code == 0x2028 ||
    code == 0x2029 || code == 0x202F || code == 0x205F || code == 0x3000

/-- Remove from the end every character that satisfies `drop`. -/
def dropEndWhile (drop : Char → Bool) (text : List Char) : List Char :=
  (text.reverse.dropWhile drop).reverse

/-- Remove from both ends every character that satisfies `drop`. -/
def dropEndsWhile (drop : Char → Bool) (text : List Char) : List Char :=
  dropEndWhile drop (text.dropWhile drop)

/-- Remove the blanks in front of a text. -/
def trimStart (text : List Char) : List Char :=
  text.dropWhile isBlank

/-- Remove the blanks behind a text. -/
def trimEnd (text : List Char) : List Char :=
  dropEndWhile isBlank text

/-- Remove the blanks on both sides of a text; those inside stay. -/
def trim (text : List Char) : List Char :=
  dropEndsWhile isBlank text

@[simp] theorem trim_nil : trim [] = [] := rfl

/-- The maximal runs of characters that are not blank, in order. -/
def words (text : List Char) : List (List Char) :=
  (splitWhere isBlank text).filter (!·.isEmpty)

@[simp] theorem words_nil : words [] = [] := rfl

/-- A blank in front of a text belongs to no word. -/
@[simp] theorem words_cons_blank {c : Char} (blank : isBlank c = true)
    (rest : List Char) :
    words (c :: rest) = words rest := by
  simp [words, splitWhere, blank]

/-! ## Tab stops -/

/-- Replace each tab by blanks up to the next tab stop, starting in the given column. -/
def expandTabsFrom (size column : Nat) : List Char → List Char
  | [] => []
  | c :: rest =>
    if c = '\t' then
      let blanks := size - column % size
      List.replicate blanks ' ' ++ expandTabsFrom size (column + blanks) rest
    else if c = '\n' ∨ c = '\r' then
      c :: expandTabsFrom size 0 rest
    else
      c :: expandTabsFrom size (column + 1) rest

/-- Replace each tab by blanks up to the next tab stop. -/
def expandTabs (size : Nat) (text : List Char) : List Char :=
  expandTabsFrom size 0 text

@[simp] theorem expandTabs_nil (size : Nat) : expandTabs size [] = [] := rfl

end Text
end KernelInventory
