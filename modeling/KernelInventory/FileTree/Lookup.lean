import KernelInventory.FileTree.Basic
import KernelInventory.FileTree.Failure
import KernelInventory.Text.Utf8

/-!
# Looking paths up

Lookup goes through the names of a path one by one.  The directory that a name is
looked up in must be searchable; a symbolic link puts the names of its target in
front of those that are left, and a budget of links makes the lookup finite.  An
empty name, which stands between two separators or after the last one, asks only that
a directory has been reached.

Reading a file, listing a directory and testing what a path leads to all start from
`locate`.
-/

namespace KernelInventory

/-- The number of links that one lookup may follow. -/
def linkBudget : Nat := 40

/-- The longest name of an entry, in bytes. -/
def longestName : Nat := 255

/-- The length at which a path is too long, in bytes. -/
def pathLimit : Nat := 4096

namespace Path

/-- Whether the path holds the character NUL. -/
def hasNull (path : Path) : Bool :=
  path.names.any fun name => name.toList.contains '\x00'

end Path

namespace FileTree

/-- The location that a link's target, or a path, starts at when it is met in
`current`. -/
def startFor (text : String) (current : Location) : Location :=
  if text.toList.head? = some '/' then [] else current

/-- The location that the names lead to from `current`.  A link as the last name is
followed only if `followLast` asks for it. -/
def locateFrom (tree : FileTree) (followLast : Bool) (links : Nat) (current : Location)
    (names : List String) : Except SystemError Location :=
  match names with
  | [] => .ok current
  | name :: rest =>
    match tree.node? current with
    | none => .error .noSuchEntry
    | some (.directory _ searchable) =>
      if name = "" then tree.locateFrom followLast links current rest
      else if !searchable then .error .permissionDenied
      else if name = "." then tree.locateFrom followLast links current rest
      else if name = ".." then tree.locateFrom followLast links current.dropLast rest
      else if longestName < name.utf8ByteSize then .error .nameTooLong
      else
        match tree.node? (current ++ [name]) with
        | none => .error .noSuchEntry
        | some (.link target) =>
          if rest = [] ∧ !followLast then .ok (current ++ [name])
          else
            match links with
            | 0 => .error .tooManyLinks
            | left + 1 =>
              tree.locateFrom followLast left (startFor target current)
                (Text.splitString '/' target ++ rest)
        | some _ => tree.locateFrom followLast links (current ++ [name]) rest
    | some _ => .error .notDirectory
termination_by (links, names.length)

/-- The location that a path starts at. -/
def startOf (tree : FileTree) (path : Path) : Location :=
  if path.isAbsolute then [] else tree.workingDirectory

/-- The location that a path leads to. -/
def locate (tree : FileTree) (followLast : Bool) (path : Path) :
    Except SystemError Location :=
  if pathLimit ≤ path.toString.utf8ByteSize then .error .nameTooLong
  else tree.locateFrom followLast linkBudget (tree.startOf path) path.names

/-- Whether a path leads to a node of a kind.  A path that leads nowhere does not, and
neither does one that holds NUL. -/
def leadsTo (tree : FileTree) (followLast : Bool) (kind : Node → Bool) (path : Path) :
    Except FileFailure Bool :=
  if path.hasNull then .ok false
  else
    match tree.locate followLast path with
    | .error error => if error.meansAbsent then .ok false
        else .error (.refused error path.toString)
    | .ok location => .ok ((tree.node? location).any kind)

/-- Whether a path leads to a directory. -/
def isDirectory (tree : FileTree) (path : Path) : Except FileFailure Bool :=
  tree.leadsTo true Node.isDirectory path

/-- Whether a path leads to a regular file. -/
def isFile (tree : FileTree) (path : Path) : Except FileFailure Bool :=
  tree.leadsTo true Node.isFile path

/-- Whether a path is a symbolic link itself. -/
def isLink (tree : FileTree) (path : Path) : Except FileFailure Bool :=
  tree.leadsTo false Node.isLink path

/-- The bytes of the file at a location. -/
def readAt (tree : FileTree) (location : Location) : Except SystemError (List UInt8) :=
  match tree.node? location with
  | some (.file bytes readable) => if readable then .ok bytes
      else .error .permissionDenied
  | some (.directory listable _) =>
      .error (if listable then .isDirectory else .permissionDenied)
  | _ => .error .noSuchEntry

/-- The bytes of the file at a location whose path has no links, if it is opened by that
path: every directory on the way from the root must be searchable. -/
def openAt (tree : FileTree) (location : Location) : Except SystemError (List UInt8) :=
  match tree.locate true location.path with
  | .error error => .error error
  | .ok _ => tree.readAt location

theorem openAt_of_locate
    {tree : FileTree} {location place : Location}
    (located : tree.locate true location.path = .ok place) :
    tree.openAt location = tree.readAt location := by
  rw [openAt, located]

/-- What can be opened by its path can be looked up and read. -/
theorem openAt_eq_ok_iff {tree : FileTree} {location : Location} {bytes : List UInt8} :
    tree.openAt location = .ok bytes ↔
      (∃ place, tree.locate true location.path = .ok place) ∧
        tree.readAt location = .ok bytes := by
  unfold openAt
  cases tree.locate true location.path <;> simp

theorem readAt_of_openAt
    {tree : FileTree} {location : Location} {bytes : List UInt8}
    (opened : tree.openAt location = .ok bytes) :
    tree.readAt location = .ok bytes :=
  (openAt_eq_ok_iff.mp opened).2

/-- Run an operation on the location of a path; whatever fails is
reported with the path. -/
def atPath {α : Type} (tree : FileTree) (path : Path)
    (operation : Location → Except SystemError α) : Except FileFailure α :=
  if path.hasNull then .error .nullByte
  else
    match tree.locate true path >>= operation with
    | .error error => .error (.refused error path.toString)
    | .ok value => .ok value

/-- The text of the file that a path leads to. -/
def readText (tree : FileTree) (path : Path) : Except FileFailure (List Char) :=
  (tree.atPath path tree.readAt).map Text.Utf8.decode

/-- The names in the directory at a location, in order. -/
def listAt (tree : FileTree) (location : Location) : Except SystemError (List String) :=
  match tree.node? location with
  | some (.directory listable _) =>
    if listable then .ok ((tree.namesAt location).mergeSort (· ≤ ·))
    else .error .permissionDenied
  | some _ => .error .notDirectory
  | none => .error .noSuchEntry

/-- The names in the directory that a path leads to, in order. -/
def list (tree : FileTree) (path : Path) : Except FileFailure (List String) :=
  tree.atPath path tree.listAt

end FileTree
end KernelInventory
