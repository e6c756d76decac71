import KernelInventory.Text.Search

/-!
# Paths

A path is an anchor and a list of names.  Reading a path drops empty names and the name
`.`, but keeps `..`; a path that starts with exactly two separators keeps both.
Everything in this module is about the text of paths, and looks at no file.
-/

namespace KernelInventory

/-- Where a path starts: at the working directory, at the root, or at the root
written with two separators. -/
inductive Anchor
  | working
  | root
  | doubleRoot
deriving Repr, DecidableEq

namespace Anchor

/-- The text in front of the first name. -/
def text : Anchor → String
  | working => ""
  | root => "/"
  | doubleRoot => "//"

end Anchor

/-- An anchor and the names below it. -/
structure Path where
  anchor : Anchor
  names : List String
deriving Repr, DecidableEq

namespace Path

/-- The anchor that leading separators stand for. -/
def anchorOf : List Char → Anchor
  | '/' :: '/' :: '/' :: _ => .root
  | '/' :: '/' :: _ => .doubleRoot
  | '/' :: _ => .root
  | _ => .working

/-- The names of a path text; empty names and `.` say nothing. -/
def namesOf (text : String) : List String :=
  (Text.splitString '/' text).filter fun name => name ≠ "" ∧ name ≠ "."

/-- Read a path. -/
def ofString (text : String) : Path :=
  ⟨anchorOf text.toList, namesOf text⟩

/-- The path of the working directory itself. -/
def here : Path := ⟨.working, []⟩

/-- The text of a path; the working directory itself is written `.`. -/
def toString (path : Path) : String :=
  if path = here then "."
  else path.anchor.text ++ "/".intercalate path.names

instance : ToString Path := ⟨toString⟩

/-- Whether a path starts at the root. -/
def isAbsolute (path : Path) : Bool :=
  path.anchor ≠ .working

/-- Go on from `path` to `below`, which replaces it when it is absolute. -/
def join (path below : Path) : Path :=
  if below.isAbsolute then below else ⟨path.anchor, path.names ++ below.names⟩

instance : HDiv Path Path Path := ⟨join⟩

/-- The path of an entry of the directory `path`. -/
def child (path : Path) (name : String) : Path :=
  ⟨path.anchor, path.names ++ [name]⟩

/-- The path that further names lead to. -/
def descend (path : Path) (names : List String) : Path :=
  ⟨path.anchor, path.names ++ names⟩

/-- The path without its last name. -/
def parent (path : Path) : Path :=
  ⟨path.anchor, path.names.dropLast⟩

/-- The last name, empty if there is none. -/
def name (path : Path) : String :=
  path.names.getLast?.getD ""

/-- The part of a name from its last dot on, unless that dot is the first or the last
character of the name. -/
def suffixOf (name : String) : String :=
  let tail := name.toList.reverse.takeWhile (· ≠ '.')
  if tail.isEmpty ∨ name.toList.length ≤ tail.length + 1 then ""
  else String.ofList ('.' :: tail.reverse)

/-- The suffix of the last name, with its dot. -/
def suffix (path : Path) : String :=
  suffixOf path.name

/-- The path seen from the root, when relative paths start at `base`. -/
def absolute (path base : Path) : Path :=
  base / path

/-- The proper ancestors of a path as written, nearest first. -/
def ancestors (path : Path) : List Path :=
  (List.range path.names.length).reverse.map fun count =>
    ⟨path.anchor, path.names.take count⟩

/-- One step of `collapse`: the name `..` takes the name before it away, and at
the root says nothing. -/
def collapseStep (taken : List String) (name : String) : List String :=
  if name = ".." then taken.dropLast else taken ++ [name]

/-- An absolute path without the names `..`, each of which takes the name before it
away. -/
def collapse (path : Path) : Path :=
  ⟨path.anchor, path.names.foldl collapseStep []⟩

/-- The names that lead from `base` down to `path`, if `path` is written below
`base`. -/
def below? (path base : Path) : Option (List String) :=
  if path.anchor = base.anchor ∧ base.names.isPrefixOf path.names then
    some (path.names.drop base.names.length)
  else
    none

/-- The components that order a path: an absolute path starts with its anchor. -/
def components (path : Path) : List String :=
  if path.isAbsolute then path.anchor.text :: path.names else path.names

/-- Lists of names are ordered by the first name in which they differ, and
names by code points. -/
def namesLe : List String → List String → Bool
  | [], _ => true
  | _ :: _, [] => false
  | left :: lefts, right :: rights =>
    if left = right then namesLe lefts rights else left ≤ right

/-- Paths are ordered by their components. -/
def le (left right : Path) : Bool :=
  namesLe left.components right.components

/-- A list of paths in order, each path once. -/
def sort (paths : List Path) : List Path :=
  paths.eraseDups.mergeSort le

end Path
end KernelInventory
