import KernelInventory.Path

/-!
# File trees

A file tree is a finite list of entries.  Each entry stands at a location, the names
that lead to it from the root, and is a regular file, a symbolic link or a directory.
The root itself is always a directory.
-/

namespace KernelInventory

/-- The names that lead from the root to an entry. -/
abbrev Location := List String

namespace Location

/-- Locations are equal exactly when their names are. -/
instance lawfulBEq : LawfulBEq Location := inferInstance

/-- The absolute path of a location. -/
def path (location : Location) : Path :=
  ⟨.root, location⟩

end Location

/-- What stands at a location. -/
inductive Node
  /-- A regular file, and whether it may be read. -/
  | file (bytes : List UInt8) (readable : Bool)
  /-- A symbolic link with the text of its target. -/
  | link (target : String)
  /-- A directory, whether its names may be listed, and whether the
  entries below may be used. -/
  | directory (listable searchable : Bool)
deriving Repr, DecidableEq

namespace Node

/-- An ordinary directory. -/
def openDirectory : Node := .directory true true

/-- Whether the node is a directory. -/
def isDirectory : Node → Bool
  | .directory .. => true
  | _ => false

/-- Whether the node is a regular file. -/
def isFile : Node → Bool
  | .file .. => true
  | _ => false

/-- Whether the node is a symbolic link. -/
def isLink : Node → Bool
  | .link _ => true
  | _ => false

end Node

/-- The entries of a file system, and the directory that relative paths start at.  The
path of this directory is known even if no such directory stands there; what a process
does whose working directory has been removed is not modelled. -/
structure FileTree where
  workingDirectory : Location
  entries : List (Location × Node)
deriving Repr

namespace FileTree

/-- The node at a location. -/
def node? (tree : FileTree) (location : Location) : Option Node :=
  if location = [] then some Node.openDirectory else tree.entries.lookup location

/-- The locations of all entries. -/
def locations (tree : FileTree) : List Location :=
  tree.entries.map (·.1)

/-- The path of the working directory. -/
def home (tree : FileTree) : Path :=
  tree.workingDirectory.path

/-- Put a node at a location, in the place of the one that stands there. -/
def put (tree : FileTree) (location : Location) (node : Node) : FileTree :=
  if location = [] then
    tree
  else if (tree.entries.lookup location).isSome then
    { tree with
      entries := tree.entries.map fun entry =>
        if entry.1 = location then (location, node) else entry }
  else
    { tree with entries := tree.entries ++ [(location, node)] }

/-- Make the directory at a location unless something stands there. -/
def ensureDirectory (tree : FileTree) (location : Location) : FileTree :=
  if (tree.node? location).isSome then tree else tree.put location Node.openDirectory

/-- Make every directory above a location that is missing. -/
def ensureParents (tree : FileTree) (location : Location) : FileTree :=
  (List.range location.length).foldl
    (fun grown count => grown.ensureDirectory (location.take count)) tree

/-- Put a node at a location, and make the directories above it. -/
def write (tree : FileTree) (location : Location) (node : Node) : FileTree :=
  (tree.ensureParents location).put location node

/-- Remove a location and everything below it. -/
def remove (tree : FileTree) (location : Location) : FileTree :=
  { tree with entries := tree.entries.filter fun entry => !location.isPrefixOf entry.1 }

/-- The tree that holds nothing but its working directory. -/
def empty (workingDirectory : Location) : FileTree :=
  let bare : FileTree := ⟨workingDirectory, []⟩
  bare.write workingDirectory Node.openDirectory

/-- The names of the entries right below a location. -/
def namesAt (tree : FileTree) (location : Location) : List String :=
  tree.entries.filterMap fun entry =>
    if entry.1.dropLast = location then entry.1.getLast? else none

@[simp] theorem node?_root (tree : FileTree) :
    tree.node? [] = some Node.openDirectory := rfl

theorem mem_entries_of_lookup {entries : List (Location × Node)} {location : Location}
    {node : Node} (found : entries.lookup location = some node) :
      (location, node) ∈ entries := by
  induction entries with
  | nil => simp at found
  | cons entry others inductionHypothesis =>
    obtain ⟨place, there⟩ := entry
    by_cases same : location = place
    · subst same
      simp only [List.lookup_cons_self, Option.some.injEq] at found
      simp [found]
    · have different : (location == place) = false := by simpa using same
      simp only [List.lookup_cons, different] at found
      exact List.mem_cons_of_mem _ (inductionHypothesis found)

/-- A node that is not the root's stands among the entries. -/
theorem mem_entries_of_node? {tree : FileTree} {location : Location} {node : Node}
    (nonempty : location ≠ []) (found : tree.node? location = some node) :
    (location, node) ∈ tree.entries := by
  unfold node? at found
  rw [if_neg nonempty] at found
  exact mem_entries_of_lookup found

theorem mem_locations_of_node? {tree : FileTree} {location : Location} {node : Node}
    (nonempty : location ≠ []) (found : tree.node? location = some node) :
    location ∈ tree.locations :=
  List.mem_map.2 ⟨(location, node), mem_entries_of_node? nonempty found, rfl⟩

end FileTree
end KernelInventory
