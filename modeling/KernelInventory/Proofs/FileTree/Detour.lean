import KernelInventory.Proofs.FileTree.Ascent
import KernelInventory.Proofs.FileTree.AtPath

/-!
# A detour

A link may climb so far that no name of more than one character fits behind its target
in the text of a path.  A canonical path keeps such a name as it is written, even if it
is that of another link, and so parts from the way that a lookup takes.

The tree of this module holds such a link, `a`, to the directory `d`.  There the link
`old` is too long behind `a`, and the link `y` is not.  A lookup by way of `a` and
`old` comes to the directory `e/y`, where the canonical path only notes the name `old`;
and if `..` follows, which takes that name away again, a lookup comes to `e` and the
canonical path stays at `d`.
-/

namespace KernelInventory
namespace FileTree

/-- A link to a directory with two links in it, and a directory outside
that one of these leads to.  Both directories hold a file of the same name
and with the same text. -/
def detourTree (target : String) (bytes : List UInt8) (readable : Bool) : FileTree :=
  ⟨[], [(["a"], .link target), (["d"], .openDirectory), (["d", "old"], .link "../e/y"),
    (["d", "src"], .openDirectory), (["d", "src", "f.c"], .file bytes true),
    (["d", "y"], .link "src"), (["e"], .openDirectory), (["e", "y"], .openDirectory),
    (["e", "y", "f.c"], .file bytes readable)]⟩

/-- The path of names behind both links. -/
def detour (names : List String) : Path :=
  ⟨.working, "a" :: "old" :: names⟩

/-- A target that comes to the directory `d` by a number of names `..`, behind which a
name of one character fits into a path and one of three characters does not. -/
structure Climbs (target : String) (count : Nat) : Prop where
  split : Text.splitString '/' target = List.replicate count ".." ++ ["d"]
  relative : target.toList.head? ≠ some '/'
  near : 3 * count + 3 < pathLimit
  far : pathLimit ≤ 3 * count + 5

/-- The names in the tree. -/
def detourNames : List String :=
  ["a", "d", "e", "f.c", "old", "src", "y"]

theorem proper_detour : ∀ name ∈ detourNames, ProperName name := by
  simp [detourNames, ProperName]

theorem short_detour : ∀ name ∈ detourNames, name.utf8ByteSize ≤ longestName := by
  decide

section Detour

variable {target : String} {bytes : List UInt8} {readable : Bool}

theorem wellFormed_detour : (detourTree target bytes readable).WellFormed where
  nodup := by simp [locations, detourTree]
  proper := by simp [locations, detourTree, ProperName]

section Steps

variable {place : Location} {name : String} {links : Nat} {behind : List String}
  (named : name ∈ detourNames)
  (searchable : (detourTree target bytes readable).Searchable place)

include named searchable

theorem locateFrom_detour
    (noLink : ∃ node, (detourTree target bytes readable).node? (place ++ [name]) =
      some node ∧
      node.isLink = false) :
    (detourTree target bytes readable).locateFrom true links place (name :: behind) =
      (detourTree target bytes readable).locateFrom true links
        (place ++ [name]) behind :=
  locateFrom_down searchable (proper_detour name named) (short_detour name named) noLink

theorem locateFrom_detour_link
    {aim : String}
    (link : (detourTree target bytes readable).node? (place ++ [name]) =
      some (.link aim)) :
    (detourTree target bytes readable).locateFrom true (links + 1) place
      (name :: behind) =
      (detourTree target bytes readable).locateFrom true links (startFor aim place)
        (Text.splitString '/' aim ++ behind) :=
  locateFrom_link searchable (proper_detour name named) (short_detour name named) link

theorem down_detour
    {path : Path}
    (straight : Straight (detourTree target bytes readable) path place)
    (noLink : ∃ node, (detourTree target bytes readable).node? (place ++ [name]) =
      some node ∧
      node.isLink = false) :
    Straight (detourTree target bytes readable) (path.child name) (place ++ [name]) :=
  straight.down searchable (proper_detour name named) (short_detour name named) noLink

end Steps

/-! ## The plain ways -/

/-- The two directories that hold a file. -/
def Holds (above below : String) : Prop :=
  above = "d" ∧ below = "src" ∨ above = "e" ∧ below = "y"

/-- The path of one of these directories without links. -/
def plainWay (above below : String) : Path :=
  ⟨.working, [above, below]⟩

namespace Holds

variable {above below : String}

theorem named (holds : Holds above below) :
    above ∈ detourNames ∧ below ∈ detourNames ∧ "f.c" ∈ detourNames := by
  rcases holds with ⟨rfl, rfl⟩ | ⟨rfl, rfl⟩
  · simp [detourNames]
  · simp [detourNames]

theorem proper (holds : Holds above below) :
    ProperName above ∧ ProperName below ∧ ProperName "f.c" := by
  obtain ⟨namedAbove, namedBelow, namedFile⟩ := holds.named
  exact ⟨proper_detour _ namedAbove, proper_detour _ namedBelow,
    proper_detour _ namedFile⟩

/-- Where the root is reached without links, so are both files. -/
theorem straight
    (holds : Holds above below)
    {start : Path}
    (begins : Straight (detourTree target bytes readable) start []) :
    Straight (detourTree target bytes readable) (start.child above) [above] ∧
      Straight (detourTree target bytes readable) ((start.child above).child below)
        [above, below] ∧
      Straight (detourTree target bytes readable)
        (((start.child above).child below).child "f.c") [above, below, "f.c"] := by
  obtain ⟨namedAbove, namedBelow, namedFile⟩ := holds.named
  rcases holds with ⟨rfl, rfl⟩ | ⟨rfl, rfl⟩
  all_goals
    have outer := down_detour namedAbove ⟨true, rfl⟩ begins ⟨_, rfl, rfl⟩
    have inner := down_detour namedBelow ⟨true, rfl⟩ outer ⟨_, rfl, rfl⟩
    exact ⟨outer, inner, down_detour namedFile ⟨true, rfl⟩ inner ⟨_, rfl, rfl⟩⟩

theorem listAt (holds : Holds above below) :
    (detourTree target bytes readable).listAt [above, below] = .ok ["f.c"] := by
  rw [listAt_eq_ok_iff]
  rcases holds with ⟨rfl, rfl⟩ | ⟨rfl, rfl⟩
  all_goals exact ⟨⟨true, rfl⟩, List.mergeSort_singleton _⟩

theorem locate_plainWay (holds : Holds above below) :
    (detourTree target bytes readable).locate true (plainWay above below) =
        .ok [above, below] ∧
      (detourTree target bytes readable).locate true
        ((plainWay above below).child "f.c") =
        .ok [above, below, "f.c"] := by
  obtain ⟨-, directory, file⟩ :=
    holds.straight (@Straight.here (detourTree target bytes readable))
  rcases holds with ⟨rfl, rfl⟩ | ⟨rfl, rfl⟩
  all_goals exact ⟨directory.locate_eq true (by decide),
    file.locate_eq true (by decide)⟩

theorem hasNull_plainWay (holds : Holds above below) :
    (plainWay above below).hasNull = false ∧
      ((plainWay above below).child "f.c").hasNull = false := by
  rcases holds with ⟨rfl, rfl⟩ | ⟨rfl, rfl⟩
  · exact ⟨rfl, rfl⟩
  · exact ⟨rfl, rfl⟩

theorem list_plainWay (holds : Holds above below) :
    (detourTree target bytes readable).list (plainWay above below) = .ok ["f.c"] := by
  rw [list_of_locate holds.hasNull_plainWay.1 holds.locate_plainWay.1, holds.listAt]

/-- Both directories hold a regular file. -/
theorem isFile_plainWay (holds : Holds above below) :
    (detourTree target bytes readable).isFile ((plainWay above below).child "f.c") =
      .ok true := by
  refine (leadsTo_of_locate holds.hasNull_plainWay.2
    holds.locate_plainWay.2 Node.isFile).trans ?_
  rcases holds with ⟨rfl, rfl⟩ | ⟨rfl, rfl⟩
  · rfl
  · rfl

/-- Where both files can be read, they hold the same text. -/
theorem readText_plainWay (holds : Holds above below) (text : List Char) :
    (detourTree target (Text.Utf8.encode text) true).readText
      ((plainWay above below).child "f.c") = .ok text := by
  refine readText_of_node holds.hasNull_plainWay.2 holds.locate_plainWay.2 ?_
  rcases holds with ⟨rfl, rfl⟩ | ⟨rfl, rfl⟩
  · rfl
  · rfl

/-- Seen from the root, both files can be looked up. -/
theorem locate_path (holds : Holds above below) :
    (detourTree target bytes readable).locate true
      (Location.path [above, below, "f.c"]) =
      .ok [above, below, "f.c"] := by
  obtain ⟨-, -, file⟩ :=
    holds.straight (@Straight.root (detourTree target bytes readable))
  rcases holds with ⟨rfl, rfl⟩ | ⟨rfl, rfl⟩
  all_goals exact file.locate_eq true (by decide)

/-- The canonical path of a file is that of its location. -/
theorem realPath_plainWay (holds : Holds above below) :
    (detourTree target bytes readable).realPath ((plainWay above below).child "f.c") =
      .ok (Location.path [above, below, "f.c"]) := by
  have begins : Straight (detourTree target bytes readable) Path.here [] := .here
  obtain ⟨outer, inner, file⟩ := holds.straight begins
  obtain ⟨properAbove, properBelow, properFile⟩ := holds.proper
  have located : (detourTree target bytes readable).locate true
      (Location.path [above, below, "f.c"]) = .ok [above, below, "f.c"] :=
    holds.locate_path
  rcases holds with ⟨rfl, rfl⟩ | ⟨rfl, rfl⟩
  all_goals
    refine realPath_of_located ?_ (file.flatten_eq_path (fun _ => rfl) ⟨_, rfl⟩) located
    change expand _ false [] Path.here [_, _, "f.c"] = _
    rw [begins.expand_child properAbove rfl ⟨_, rfl, rfl⟩,
      outer.expand_child properBelow rfl ⟨_, rfl, rfl⟩,
      inner.expand_child properFile rfl ⟨_, rfl, rfl⟩, expand]

end Holds

/-! ## The long ways -/

/-- Behind a path by way of both links, an entry is looked up where that path leads
to. -/
theorem locate_detour_child
    {names : List String} {place : Location} {name : String}
    (located : (detourTree target bytes readable).locate true (detour names) =
      .ok place)
    (named : name ∈ detourNames)
    (searchable : (detourTree target bytes readable).Searchable place)
    (noLink : ∃ node, (detourTree target bytes readable).node? (place ++ [name]) =
      some node ∧
      node.isLink = false)
    (short : (detour (names ++ [name])).toString.utf8ByteSize < pathLimit)
    (followLast : Bool) :
    (detourTree target bytes readable).locate followLast (detour (names ++ [name])) =
      .ok (place ++ [name]) := by
  obtain ⟨left, onward⟩ := locate_child located
  have behind := onward followLast name
  change (detourTree target bytes readable).locate followLast
      (detour (names ++ [name])) =
    if pathLimit ≤ (detour (names ++ [name])).toString.utf8ByteSize then _
    else _ at behind
  have proper := proper_detour name named
  rw [behind, if_neg (Nat.not_le.mpr short),
    locateFrom_down searchable proper (short_detour name named) noLink, locateFrom]

/-- The second link leads to the other directory. -/
theorem locateFrom_old (links : Nat) (names : List String) :
    (detourTree target bytes readable).locateFrom true (links + 1) ["d"]
    ("old" :: names) =
      (detourTree target bytes readable).locateFrom true links ["e", "y"] names := by
  have named : ∀ name ∈ ["old", "e", "y"], name ∈ detourNames := by simp [detourNames]
  have onward : startFor "../e/y" ["d"] = ["d"] := rfl
  have split : Text.splitString '/' "../e/y" = ["..", "e", "y"] := rfl
  refine (locateFrom_detour_link (named "old" (by simp)) ⟨true, rfl⟩ rfl).trans ?_
  rw [onward, split]
  refine (locateFrom_up ⟨true, rfl⟩).trans ?_
  refine (locateFrom_detour (named "e" (by simp)) ⟨true, rfl⟩ ⟨_, rfl, rfl⟩).trans ?_
  exact locateFrom_detour (named "y" (by simp)) ⟨true, rfl⟩ ⟨_, rfl, rfl⟩

theorem hasNull_detour
    {names : List String}
    (either : names = [] ∨ names = ["..", "y"]) :
    (detour (names ++ ["f.c"])).hasNull = false := by
  rcases either with rfl | rfl
  · rfl
  · rfl

section Climbs

variable {count : Nat} (climbs : Climbs target count)

include climbs

/-- By way of both links, a lookup comes to the other directory. -/
theorem locate_detour
    {names : List String}
    (short : (detour names).toString.utf8ByteSize < pathLimit) :
    (detourTree target bytes readable).locate true (detour names) =
      (detourTree target bytes readable).locateFrom true 38 ["e", "y"] names := by
  have named : ∀ name ∈ ["a", "d"], name ∈ detourNames := by simp [detourNames]
  have begins : startFor target [] = [] := by
    rw [startFor, ite_self]
  rw [locate, if_neg (Nat.not_le.mpr short)]
  change (detourTree target bytes readable).locateFrom true 40 [] _ = _
  refine (locateFrom_detour_link (named "a" (by simp)) ⟨true, rfl⟩ rfl).trans ?_
  rw [begins, climbs.split, List.append_assoc, locateFrom_ascending,
    List.singleton_append,
    locateFrom_detour (named "d" (by simp)) ⟨true, rfl⟩ ⟨_, rfl, rfl⟩]
  exact locateFrom_old 38 names

/-- The directory that is behind both links. -/
theorem locate_detour_nil :
    (detourTree target bytes readable).locate true (detour []) = .ok ["e", "y"] := by
  rw [locate_detour climbs (by decide), locateFrom]

theorem locate_detour_up :
    (detourTree target bytes readable).locate true (detour [".."]) = .ok ["e"] := by
  rw [locate_detour climbs (by decide), locateFrom_up ⟨true, rfl⟩, locateFrom]
  rfl

theorem locate_detour_down (followLast : Bool) :
    (detourTree target bytes readable).locate followLast (detour ["..", "y"]) =
      .ok ["e", "y"] :=
  locate_detour_child (locate_detour_up climbs) (by simp [detourNames]) ⟨true, rfl⟩
    ⟨_, rfl, rfl⟩ (by decide) followLast

/-- Both ways of the directory lead to the file in it. -/
theorem locate_detour_file
    (names : List String)
    (either : names = [] ∨ names = ["..", "y"]) :
    (detourTree target bytes readable).locate true (detour (names ++ ["f.c"])) =
      .ok ["e", "y", "f.c"] := by
  have located : (detourTree target bytes readable).locate true (detour names) =
      .ok ["e", "y"] := by
    rcases either with rfl | rfl
    · exact locate_detour_nil climbs
    · exact locate_detour_down climbs true
  have short : (detour (names ++ ["f.c"])).toString.utf8ByteSize < pathLimit := by
    rcases either with rfl | rfl
    · decide
    · decide
  exact locate_detour_child located (by simp [detourNames]) ⟨true, rfl⟩ ⟨_, rfl, rfl⟩
    short true

/-- By both ways it is a regular file. -/
theorem isFile_detour
    {names : List String}
    (either : names = [] ∨ names = ["..", "y"]) :
    (detourTree target bytes readable).isFile (detour (names ++ ["f.c"])) =
      .ok true := by
  exact leadsTo_of_locate (hasNull_detour either)
    (locate_detour_file climbs names either) _

/-- By both ways the text is read that the file in the other directory holds as well. -/
theorem readText_detour
    {names : List String}
    (either : names = [] ∨ names = ["..", "y"])
    (text : List Char) :
    (detourTree target (Text.Utf8.encode text) true).readText
      (detour (names ++ ["f.c"])) = .ok text := by
  exact readText_of_node (hasNull_detour either)
    (locate_detour_file climbs names either) rfl

/-- Both ways of the directory list the file in it. -/
theorem list_detour
    {names : List String}
    (either : names = [] ∨ names = ["..", "y"]) :
    (detourTree target bytes readable).list (detour names) = .ok ["f.c"] := by
  have listed : (detourTree target bytes readable).listAt ["e", "y"] = .ok ["f.c"] :=
    Holds.listAt (.inr ⟨rfl, rfl⟩)
  rcases either with rfl | rfl
  · rw [list_of_locate rfl (locate_detour_nil climbs), listed]
  · rw [list_of_locate rfl (locate_detour_down climbs true), listed]

theorem list_detour_up :
    (detourTree target bytes readable).list (detour [".."]) = .ok ["y"] := by
  have listed : (detourTree target bytes readable).listAt ["e"] = .ok ["y"] :=
    listAt_eq_ok_iff.mpr ⟨⟨true, rfl⟩, List.mergeSort_singleton _⟩
  rw [list_of_locate rfl (locate_detour_up climbs), listed]

/-! ### Canonical paths -/

/-- Behind the row of names `..`, a text of five characters or more is too long. -/
theorem too_long
    {names : List String}
    (nonempty : names ≠ [])
    (size : 5 ≤ ("/".intercalate names).utf8ByteSize) :
    pathLimit ≤ (Path.ascending count names).toString.utf8ByteSize := by
  rw [Path.utf8ByteSize_ascending count nonempty]
  exact climbs.far.trans (Nat.add_le_add_left size _)

/-- A canonical path goes on at the end of the row of names `..`, and keeps the second
link as it is written. -/
theorem expand_detour (names : List String) :
    (detourTree target bytes readable).expandPath false (detour names) =
      (detourTree target bytes readable).expand false [] (.ascending count ["d", "old"])
        names := by
  have located : (detourTree target bytes readable).locate false (Path.here.child "a") =
      .ok ["a"] := by
    rw [locate, if_neg (by decide)]
    change (detourTree target bytes readable).locateFrom false 40 [] ["a"] = _
    rw [locateFrom]
    rfl
  have link : (detourTree target bytes readable).node? ["a"] = some (.link target) :=
    rfl
  have inside : ∀ pending, (detourTree target bytes readable).expand false pending .here
      (List.replicate count ".." ++ ["d"]) =
        .ok (.settled (.ascending count ["d"])) := by
    intro pending
    have climbed := @expand_ascending (detourTree target bytes readable) false pending 0
      count ["d"]
    rw [Nat.zero_add] at climbed
    refine climbed.trans ?_
    rw [(straight_ascending rfl count).expand_child
      (proper_detour "d" (by simp [detourNames])) rfl ⟨_, rfl, rfl⟩,
        Path.ascending_child, expand]
    rfl
  have tooLong : pathLimit ≤
      ((Path.ascending count ["d"]).child "old").toString.utf8ByteSize := by
    rw [Path.ascending_child]
    exact too_long climbs (by simp) (by decide)
  have proper := proper_detour "a" (by simp [detourNames])
  have begins : pathFor target .here = .here := if_neg climbs.relative
  change expand _ false [] Path.here ("a" :: "old" :: names) = _
  rw [expand_of_link (Replaces.link proper rfl located link).eq rfl
      (by rw [begins, climbs.split, inside]),
    expand_long (proper_detour "old" (by simp [detourNames])) rfl tooLong,
    Path.ascending_child]
  rfl

/-- A name `..` takes the second link away, and the short link is replaced. -/
theorem expand_detour_down (rest : List String) :
    (detourTree target bytes readable).expand false [] (.ascending count ["d", "old"])
        (".." :: "y" :: rest) =
      (detourTree target bytes readable).expand false []
      (.ascending count ["d", "src"]) rest := by
  have back : (Path.ascending count ["d", "old"]).up = .ascending count ["d"] := by
    simp [Path.up, Path.parent, Path.ascending]
  have straight : Straight (detourTree target bytes readable) (.ascending count ["d"])
      ["d"] := by
    have begins : Straight (detourTree target bytes readable)
        (.ascending count []) [] :=
      straight_ascending rfl count
    exact Path.ascending_child count []
      "d" ▸ (Holds.straight (.inl ⟨rfl, rfl⟩) begins).1
  have short : ((Path.ascending count ["d"]).child "y").toString.utf8ByteSize <
      pathLimit := by
    have size : ("/".intercalate ["d", "y"]).utf8ByteSize = 3 := by decide
    rw [Path.ascending_child, Path.utf8ByteSize_ascending count (by simp),
      List.singleton_append, size]
    exact climbs.near
  have located : (detourTree target bytes readable).locate false
      ((Path.ascending count ["d"]).child "y") = .ok ["d", "y"] := by
    have onward := straight.locateFrom_eq false linkBudget ["y"]
    rw [locate, if_neg (Nat.not_le.mpr short)]
    refine onward.trans ?_
    rw [locateFrom]
    rfl
  have link : (detourTree target bytes readable).node? ["d", "y"] =
      some (.link "src") := rfl
  have inside : ∀ pending, (detourTree target bytes readable).expand false pending
      (.ascending count ["d"])
      ["src"] = .ok (.settled (.ascending count ["d", "src"])) := by
    intro pending
    rw [straight.expand_child (proper_detour "src" (by simp [detourNames])) rfl
      ⟨_, rfl, rfl⟩, Path.ascending_child, expand]
    rfl
  have proper := proper_detour "y" (by simp [detourNames])
  rw [expand_of_reaches Replaces.up.eq, back,
    expand_of_link (Replaces.link proper rfl located link).eq rfl (inside _)]

/-- The canonical path by way of both links, where its names have been replaced. -/
theorem realPath_detour
    {names reached : List String} {place : Location}
    (expanded : (detourTree target bytes readable).expand false []
      (.ascending count ["d", "old"]) names = .ok (.settled (.ascending count reached)))
    (noDots : ".." ∉ reached)
    (located : (detourTree target bytes readable).locate true (Location.path reached) =
      .ok place) :
    (detourTree target bytes readable).realPath (detour names) =
      .ok (Location.path reached) :=
  realPath_of_located ((expand_detour climbs names).trans expanded)
    (flatten_ascending rfl count noDots) located

/-- The file behind both links has a canonical path with the second link in it. -/
theorem realPath_detour_file :
    (detourTree target bytes readable).realPath (detour ["f.c"]) =
      .ok (Location.path ["d", "old", "f.c"]) := by
  have located : (detourTree target bytes readable).locate true
      (Location.path ["d", "old", "f.c"]) = .ok ["e", "y", "f.c"] := by
    have named : ∀ name ∈ ["d", "f.c"], name ∈ detourNames := by simp [detourNames]
    rw [locate, if_neg (by decide)]
    change (detourTree target bytes readable).locateFrom true 40 []
        ["d", "old", "f.c"] = _
    rw [locateFrom_detour (named "d" (by simp)) ⟨true, rfl⟩ ⟨_, rfl, rfl⟩]
    refine (locateFrom_old 39 ["f.c"]).trans ?_
    rw [locateFrom_detour (named "f.c" (by simp)) ⟨true, rfl⟩ ⟨_, rfl, rfl⟩, locateFrom]
    rfl
  refine realPath_detour climbs ?_ (by simp) located
  have proper := proper_detour "f.c" (by simp [detourNames])
  have tooLong : pathLimit ≤
      ((Path.ascending count ["d", "old"]).child "f.c").toString.utf8ByteSize := by
    rw [Path.ascending_child]
    exact too_long climbs (by simp) (by decide)
  rw [expand_long proper rfl tooLong, Path.ascending_child, expand]
  rfl

/-- One directory up from both links, the canonical path is that of the
directory of the second link. -/
theorem realPath_detour_up :
    (detourTree target bytes readable).realPath (detour [".."]) =
      .ok (Location.path ["d"]) := by
  have located : (detourTree target bytes readable).locate true (Location.path ["d"]) =
      .ok ["d"] :=
    (Holds.straight (.inl ⟨rfl, rfl⟩) Straight.root).1.locate_eq true (by decide)
  refine realPath_detour climbs ?_ (by simp) located
  rw [expand_of_reaches Replaces.up.eq, expand]
  simp [Path.up, Path.parent, Path.ascending]

/-- Another directory is behind that, for a lookup and for a canonical path. -/
theorem realPath_detour_down :
    (detourTree target bytes readable).realPath (detour ["..", "y"]) =
      .ok (Location.path ["d", "src"]) := by
  have located : (detourTree target bytes readable).locate true
      (Location.path ["d", "src"]) =
      .ok ["d", "src"] :=
    (Holds.straight (.inl ⟨rfl, rfl⟩) Straight.root).2.1.locate_eq true (by decide)
  refine realPath_detour climbs ?_ (by simp) located
  rw [expand_detour_down climbs, expand]

/-- So the file that a lookup finds there has the canonical path of the other one. -/
theorem realPath_detour_down_file :
    (detourTree target bytes readable).realPath (detour ["..", "y", "f.c"]) =
      .ok (Location.path ["d", "src", "f.c"]) := by
  refine realPath_detour climbs ?_ (by simp) (Holds.locate_path (.inl ⟨rfl, rfl⟩))
  have proper := proper_detour "f.c" (by simp [detourNames])
  have tooLong : pathLimit ≤
      ((Path.ascending count ["d", "src"]).child "f.c").toString.utf8ByteSize := by
    rw [Path.ascending_child]
    exact too_long climbs (by simp) (by decide)
  rw [expand_detour_down climbs, expand_long proper rfl tooLong,
    Path.ascending_child, expand]
  rfl

end Climbs

end Detour

/-! ## A target that climbs -/

/-- The target of a number of names `..`, and a directory behind them. -/
def detourTarget (count : Nat) : String :=
  "/".intercalate (List.replicate count ".." ++ ["d"])

theorem splitString_detourTarget (count : Nat) :
    Text.splitString '/' (detourTarget count) = List.replicate count ".." ++ ["d"] := by
  refine Text.splitString_intercalate rfl (by simp) fun part member => ?_
  rcases List.mem_append.mp member with dots | last
  · rw [List.eq_of_mem_replicate dots]
    simp
  · rw [List.mem_singleton.mp last]
    simp

theorem head?_detourTarget (count : Nat) :
    (detourTarget (count + 1)).toList.head? = some '.' := by
  rw [detourTarget, List.replicate_succ, List.cons_append,
    String.intercalate_cons_of_ne_nil (by simp), String.toList_append,
    String.toList_append]
  rfl

theorem climbs_detourTarget : Climbs (detourTarget 1364) 1364 where
  split := splitString_detourTarget 1364
  relative := by
    rw [head?_detourTarget]
    simp
  near := by decide
  far := by decide

end FileTree
end KernelInventory
