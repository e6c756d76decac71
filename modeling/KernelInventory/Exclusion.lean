import KernelInventory.Pattern.Basic

/-!
# Excluding paths

An exclusion is a list of patterns, in which later patterns count more.  A match
through a marked separator says only that the path lies in a directory that is meant,
and gives way to any other match.
-/

namespace KernelInventory

/-- Patterns in the order in which they are given. -/
structure Exclusion where
  patterns : List Pattern
deriving Repr, DecidableEq

namespace Exclusion

/-- Read a list of patterns, and drop those that are about nothing. -/
def ofPatterns (texts : List String) : Except Pattern.Failure Exclusion :=
  (texts.mapM Pattern.ofString?).map fun patterns => ⟨patterns.filterMap id⟩

/-- The matches of a text, the last pattern's first: whether the pattern excludes, and
whether the match is marked. -/
def hits (exclusion : Exclusion) (text : List Char) : List (Bool × Bool) :=
  exclusion.patterns.reverse.filterMap fun pattern =>
    (pattern.rule.find? text).map fun marked => (pattern.excludes, marked)

/-- Whether a text is excluded: the first unmarked match decides, or else
the first marked one. -/
def decides (exclusion : Exclusion) (text : List Char) : Bool :=
  let hits := exclusion.hits text
  match hits.find? (!·.2) <|> hits.head? with
  | some (excludes, _) => excludes
  | none => false

/-- A path text without the one leading separator, or else the one leading
`./`, that says nothing. -/
def plain : List Char → List Char
  | '/' :: rest => rest
  | '.' :: '/' :: rest => rest
  | text => text

/-- Whether a path is to be skipped.  A directory is skipped as well if its text with a
separator behind it is excluded. -/
def skips (exclusion : Exclusion) (path : String) (directory : Bool) : Bool :=
  let name := Text.dropEndsWhile (· == '/') path.toList
  if name.isEmpty then false
  else
    exclusion.decides (plain name) ||
      (directory && exclusion.decides (plain (name ++ ['/'])))

end Exclusion
end KernelInventory
