/-!
# Searching and splitting

The leftmost occurrence of one text in another, and splitting a text at separator
characters.
-/

namespace KernelInventory
namespace Text

/-- What stands before and after the leftmost occurrence of `needle`, if there is
one. -/
def splitAt? (needle : List Char) : List Char → Option (List Char × List Char)
  | [] => if needle.isEmpty then some ([], []) else none
  | c :: rest =>
    if needle.isPrefixOf (c :: rest) then
      some ([], (c :: rest).drop needle.length)
    else
      (splitAt? needle rest).map fun (before, after) => (c :: before, after)

/-- Whether `needle` occurs in the text. -/
def contains (text needle : List Char) : Bool :=
  (splitAt? needle text).isSome

/-- The pieces between the characters that satisfy `separates`; a text without
one is a single piece. -/
def splitWhere (separates : Char → Bool) : List Char → List (List Char)
  | [] => [[]]
  | c :: rest =>
    if separates c then
      [] :: splitWhere separates rest
    else
      match splitWhere separates rest with
      | [] => [[c]]
      | piece :: others => (c :: piece) :: others

@[simp] theorem splitWhere_nil (separates : Char → Bool) :
    splitWhere separates [] = [[]] := rfl

/-- Splitting always leaves a first piece. -/
theorem splitWhere_ne_nil (separates : Char → Bool) (text : List Char) :
    splitWhere separates text ≠ [] := by
  cases text with
  | nil => simp
  | cons c rest =>
    unfold splitWhere
    split
    · simp
    · split <;> simp

/-- The pieces between the occurrences of a separator. -/
def splitOn (separator : Char) (text : List Char) : List (List Char) :=
  splitWhere (· == separator) text

/-- Split a string at a separator character. -/
def splitString (separator : Char) (text : String) : List String :=
  (splitOn separator text.toList).map String.ofList

end Text
end KernelInventory
