/-!
# Lines of a text

A line ends at a line feed, at a carriage return, or at the pair of both; no other
character ends one.  Lines are delivered without their terminator, and a last line that
lacks a terminator counts when it holds at least one character.
-/

namespace KernelInventory
namespace Text

/-- Write every line end as a single line feed. -/
def unifyBreaks : List Char → List Char
  | [] => []
  | '\r' :: '\n' :: rest => '\n' :: unifyBreaks rest
  | '\r' :: rest => '\n' :: unifyBreaks rest
  | c :: rest => c :: unifyBreaks rest

/-- Put one character in front of the first line. -/
def consLine (c : Char) : List (List Char) → List (List Char)
  | [] => [[c]]
  | line :: others => (c :: line) :: others

/-- The lines of a text in which only the line feed ends a line. -/
def feedLines : List Char → List (List Char)
  | [] => []
  | c :: rest => if c = '\n' then [] :: feedLines rest else consLine c (feedLines rest)

@[simp] theorem feedLines_nil : feedLines [] = [] := rfl

@[simp] theorem feedLines_feed (rest : List Char) :
    feedLines ('\n' :: rest) = [] :: feedLines rest := rfl

/-- The lines of a text, whichever way each of them ends. -/
def lines (text : List Char) : List (List Char) :=
  feedLines (unifyBreaks text)

/-- Join lines by single line feeds, with none after the last. -/
def unlines (lines : List (List Char)) : List Char :=
  List.intercalate ['\n'] lines

/-- The first line with its line feed, and the rest of the text; `none` at the end of
the text. Only the line feed ends a line here. -/
def takeLine : List Char → Option (List Char × List Char)
  | [] => none
  | c :: rest =>
    if c = '\n' then
      some (['\n'], rest)
    else
      match takeLine rest with
      | none => some ([c], [])
      | some (line, others) => some (c :: line, others)

theorem takeLine_shorter {text line rest : List Char}
    (taken : takeLine text = some (line, rest)) :
    rest.length < text.length := by
  induction text generalizing line rest with
  | nil => simp [takeLine] at taken
  | cons c others inductionHypothesis =>
    unfold takeLine at taken
    split at taken
    · simp only [Option.some.injEq, Prod.mk.injEq] at taken
      simp [← taken.2]
    · split at taken
      · simp only [Option.some.injEq, Prod.mk.injEq] at taken
        simp [← taken.2]
      next found =>
        simp only [Option.some.injEq, Prod.mk.injEq] at taken
        have shorter := inductionHypothesis found
        rw [← taken.2, List.length_cons]
        omega

end Text
end KernelInventory
