import KernelInventory.FileTree.Lookup

/-!
# Canonical paths

The canonical form of a path names the same entry through real directories
only: links are replaced by their targets, `..` takes the name before it away,
and the result is absolute.

`realLocation` asks that everything on the way exists, and fails at the first name that
does not. `realPath` takes what does not exist as it is written.  Both go through the
names from left to right and remember the links that are being replaced, each as the
path that led to it.  To meet one of them again by the same path is a loop.
-/

namespace KernelInventory

namespace Path

/-- One directory up from a path whose names are real: above a relative path
this goes on with `..`. -/
def up (path : Path) : Path :=
  if path.anchor = .working ∧ (path.names = [] ∨ path.names.getLast? = some "..") then
    path.child ".."
  else
    path.parent

/-- The number of names `..` that a path starts with. -/
def ascents (path : Path) : Nat :=
  (path.names.takeWhile (· == "..")).length

end Path

/-- What replacing the links of a path came to. -/
inductive Expansion
  /-- A path without links. -/
  | settled (path : Path)
  /-- A link that leads back to itself, with the names that were left behind it. -/
  | looping (path : Path)
deriving Repr, DecidableEq

namespace Expansion

/-- The path, wherever the expansion stopped. -/
def path : Expansion → Path
  | settled path => path
  | looping path => path

end Expansion

namespace FileTree

/-- A link as it is met.  Behind real directories, the location of the link and the
number of names `..` in front tell the whole path. -/
structure Sighting where
  /-- Whether the path is absolute. -/
  absolute : Bool
  /-- The number of names `..` that the path starts with. -/
  ascents : Nat
  location : Location
deriving Repr, DecidableEq

/-- A link at a location as it is met by a path.  No path that can be looked up has more
names than characters, so a larger number of names says nothing. -/
def sightingOf (path : Path) (location : Location) : Sighting :=
  ⟨path.isAbsolute, min path.ascents pathLimit, location⟩

/-- All ways of meeting the entries of a tree. -/
def sightings (tree : FileTree) : List Sighting :=
  tree.locations.flatMap fun location =>
    (List.range (pathLimit + 1)).flatMap fun ascents =>
      [⟨true, ascents, location⟩, ⟨false, ascents, location⟩]

/-- The ways of meeting an entry that are not pending. -/
def idleSightings (tree : FileTree) (pending : List Sighting) : List Sighting :=
  tree.sightings.filter fun sighting => !pending.contains sighting

/-- Every way of meeting a link is among the ways of meeting the entries of its tree. -/
theorem sightingOf_mem {tree : FileTree} {location : Location} {target : String}
    (path : Path) (found : tree.node? location = some (.link target)) :
    sightingOf path location ∈ tree.sightings := by
  have nonempty : location ≠ [] := by
    rintro rfl
    simp [Node.openDirectory] at found
  refine List.mem_flatMap.2 ⟨location, mem_locations_of_node? nonempty found, ?_⟩
  refine List.mem_flatMap.2
    ⟨min path.ascents pathLimit, List.mem_range.2 (by omega), ?_⟩
  unfold sightingOf
  cases path.isAbsolute <;> simp

theorem idleSightings_lt {tree : FileTree} {pending : List Sighting} {path : Path}
    {location : Location} {target : String}
    (found : tree.node? location = some (.link target))
    (idle : ¬pending.contains (sightingOf path location) = true) :
    (tree.idleSightings (sightingOf path location :: pending)).length <
      (tree.idleSightings pending).length := by
  have member := sightingOf_mem path found
  generalize sightingOf path location = sighting at member idle
  have split : tree.idleSightings (sighting :: pending) =
      (tree.idleSightings pending).filter fun other => other ≠ sighting := by
    simp [idleSightings, List.filter_filter]
  rw [split]
  refine List.length_filter_lt_length_iff_exists.2 ⟨sighting, ?_, by simp⟩
  exact List.mem_filter.2 ⟨member, by simpa using idle⟩

/-- The failure of a loop that comes back to a link: following that link shows why. -/
def loopFailure (tree : FileTree) (link : Path) : FileFailure :=
  match tree.locate true link with
  | .error error => .refused error link.toString
  | .ok _ => .linkLoop link.toString

/-- Replace the links in `names`, starting at the path `current`, which has
none.  `pending` holds the links that are being replaced; one of them met
again by the same path is a loop.  With `strict`, a name that cannot be looked
up and a loop are failures. -/
def expand (tree : FileTree) (strict : Bool) (pending : List Sighting) (current : Path)
    (names : List String) : Except FileFailure Expansion :=
  match names with
  | [] => .ok (.settled current)
  | name :: rest =>
    if name = "" ∨ name = "." then tree.expand strict pending current rest
    else if name = ".." then tree.expand strict pending current.up rest
    else if name.toList.contains '\x00' then .error .nullByte
    else
      let next := current.child name
      match tree.locate false next with
      | .error error =>
        if strict then .error (.refused error next.toString)
        else tree.expand strict pending next rest
      | .ok location =>
        match _ : tree.node? location with
        | some (.link target) =>
          if _ : pending.contains (sightingOf next location) then
            if strict then .error (tree.loopFailure next)
            else .ok (.looping (next / Path.ofString ("/".intercalate rest)))
          else
            let start := if target.toList.head? = some '/' then ⟨.root, []⟩ else current
            match tree.expand strict (sightingOf next location :: pending) start
                (Text.splitString '/' target) with
            | .ok (.settled reached) => tree.expand strict pending reached rest
            | .ok (.looping stuck) =>
              .ok (.looping (stuck / Path.ofString ("/".intercalate rest)))
            | .error failure => .error failure
        | _ => tree.expand strict pending next rest
termination_by ((tree.idleSightings pending).length, names.length)
decreasing_by
  all_goals first
    | (apply Prod.Lex.left; apply idleSightings_lt <;> assumption)
    | (apply Prod.Lex.right; simp)

/-- Replace the links of a path. -/
def expandPath (tree : FileTree) (strict : Bool) (path : Path) :
    Except FileFailure Expansion :=
  tree.expand strict [] (if path.isAbsolute then ⟨.root, []⟩ else Path.here) path.names

/-- A path as seen from the root, without `..`. -/
def flatten (tree : FileTree) (path : Path) : Path :=
  (path.absolute tree.home).collapse

/-- Too many links are reported as a loop. -/
def asLoop : FileFailure → FileFailure
  | .refused .tooManyLinks path => .linkLoop path
  | failure => failure

/-- The location of an existing entry. -/
def realLocation (tree : FileTree) (path : Path) : Except FileFailure Location :=
  match tree.expandPath true path with
  | .ok expansion => .ok (tree.flatten expansion.path).names
  | .error failure => .error (asLoop failure)

/-- The canonical path of an entry that may not exist. -/
def realPath (tree : FileTree) (path : Path) : Except FileFailure Path :=
  match tree.expandPath false path with
  | .ok expansion =>
    let reached := tree.flatten expansion.path
    match tree.locate true reached with
    | .error .tooManyLinks => .error (.linkLoop reached.toString)
    | _ => .ok reached
  | .error failure => .error (asLoop failure)

end FileTree
end KernelInventory
