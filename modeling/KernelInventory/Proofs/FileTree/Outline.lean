import KernelInventory.Proofs.FileTree.Replacement

/-!
# What a lookup sees of a tree

Looking a path up, and making it canonical, depend on the outline of a tree alone: which
entries there are, where links lead, and which directories may be searched.  What files
hold, which files may be read and which directories may be listed makes no difference.
-/

namespace KernelInventory

/-- What a lookup sees of a node. -/
def Node.outline : Node → Node
  | .file _ _ => .file [] true
  | .link target => .link target
  | .directory _ searchable => .directory true searchable

namespace FileTree

/-- A change of the nodes of a tree changes what stands at a location. -/
theorem lookup_map
    (entries : List (Location × Node))
    (change : Location → Node → Node)
    (location : Location) :
    (entries.map fun entry => (entry.1, change entry.1 entry.2)).lookup location =
      (entries.lookup location).map (change location) := by
  induction entries with
  | nil => rfl
  | cons entry rest inductionHypothesis =>
      rw [List.map_cons, List.lookup_cons, List.lookup_cons, inductionHypothesis]
      cases same : location == entry.1 with
      | true => rw [eq_of_beq same]; rfl
      | false => rfl

/-- Two trees have the same entries, up to what no lookup sees. -/
structure SameOutline (tree other : FileTree) : Prop where
  workingDirectory : tree.workingDirectory = other.workingDirectory
  nodes : ∀ location,
    (tree.node? location).map Node.outline = (other.node? location).map Node.outline

namespace SameOutline

variable {tree other : FileTree}

/-- At every location the two trees hold nodes of one kind. -/
theorem node?_cases (same : SameOutline tree other) (location : Location) :
    (tree.node? location = none ∧ other.node? location = none) ∨
      (∃ target, tree.node? location = some (.link target) ∧
        other.node? location = some (.link target)) ∨
      (∃ searchable left right,
        tree.node? location = some (.directory left searchable) ∧
        other.node? location = some (.directory right searchable)) ∨
      ∃ left right leftReadable rightReadable,
        tree.node? location = some (.file left leftReadable) ∧
          other.node? location = some (.file right rightReadable) := by
  have nodes := same.nodes location
  generalize tree.node? location = node at nodes ⊢
  generalize other.node? location = otherNode at nodes ⊢
  rcases node with _ | ⟨left, leftReadable⟩ | target | ⟨left, searchable⟩ <;>
    rcases otherNode with _ | ⟨right, rightReadable⟩ | target' |
      ⟨right, searchable'⟩ <;>
    simp_all [Node.outline]

theorem lookupStep_eq (same : SameOutline tree other) (current : Location)
    (name : String) :
    tree.lookupStep current name = other.lookupStep current name := by
  unfold lookupStep
  rcases same.node?_cases current with ⟨here, there⟩ | ⟨_, here, there⟩ |
    ⟨searchable, _, _, here, there⟩ | ⟨_, _, _, _, here, there⟩
  · simp only [here, there]
  · simp only [here, there]
  · simp only [here, there]
    rcases same.node?_cases (current ++ [name]) with ⟨next, nextThere⟩ |
      ⟨target, next, nextThere⟩ | ⟨_, _, _, next, nextThere⟩ |
        ⟨_, _, _, _, next, nextThere⟩ <;>
      simp only [next, nextThere]
  · simp only [here, there]

theorem locate_eq (same : SameOutline tree other) (followLast : Bool) (path : Path) :
    tree.locate followLast path = other.locate followLast path := by
  rw [locate, locate, startOf, startOf, same.workingDirectory,
    locateFrom_congr same.lookupStep_eq]

theorem loopFailure_eq (same : SameOutline tree other) (link : Path) :
    tree.loopFailure link = other.loopFailure link := by
  rw [loopFailure, loopFailure, same.locate_eq]

theorem replacementStep_eq
    (same : SameOutline tree other)
    (strict : Bool) (current : Path) (name : String) :
    tree.replacementStep strict current name = other.replacementStep strict current
      name := by
  unfold replacementStep
  rw [same.locate_eq]
  cases other.locate false (current.child name) with
  | error error => rfl
  | ok location =>
      rcases same.node?_cases location with ⟨here, there⟩ | ⟨target, here, there⟩ |
        ⟨_, _, _, here, there⟩ | ⟨_, _, _, _, here, there⟩ <;> simp only [here, there]

theorem expand_eq
    (same : SameOutline tree other)
    (strict : Bool) (pending : List Sighting) (current : Path) (names : List String) :
    tree.expand strict pending current names = other.expand strict pending
      current names :=
  expand_congr (same.replacementStep_eq strict) (fun _ => same.loopFailure_eq) pending
    current names

theorem flatten_eq (same : SameOutline tree other) (path : Path) :
    tree.flatten path = other.flatten path := by
  rw [flatten, flatten, FileTree.home, FileTree.home, same.workingDirectory]

theorem realLocation_eq (same : SameOutline tree other) (path : Path) :
    tree.realLocation path = other.realLocation path := by
  simp only [realLocation, expandPath, same.expand_eq, same.flatten_eq]

theorem realPath_eq (same : SameOutline tree other) (path : Path) :
    tree.realPath path = other.realPath path := by
  simp only [realPath, expandPath, same.expand_eq, same.flatten_eq, same.locate_eq]

/-- Two trees agree on where a path leads to if the kind of a node shows in its
outline. -/
theorem leadsTo_eq
    (same : SameOutline tree other)
    {kind : Node → Bool}
    (visible : ∀ node, kind node.outline = kind node)
    (followLast : Bool) (path : Path) :
    tree.leadsTo followLast kind path = other.leadsTo followLast kind path := by
  have kinds : ∀ location,
      (tree.node? location).any kind = (other.node? location).any kind := by
    intro location
    have seen : ∀ node : Option Node,
        (node.map Node.outline).any kind = node.any kind := by
      rintro (_ | node)
      · rfl
      · exact visible node
    rw [← seen, same.nodes, seen]
  simp only [leadsTo, same.locate_eq, kinds]

theorem isDirectory_eq (same : SameOutline tree other) (path : Path) :
    tree.isDirectory path = other.isDirectory path :=
  same.leadsTo_eq (by rintro ⟨⟩ <;> rfl) true path

theorem isFile_eq (same : SameOutline tree other) (path : Path) :
    tree.isFile path = other.isFile path :=
  same.leadsTo_eq (by rintro ⟨⟩ <;> rfl) true path

theorem isLink_eq (same : SameOutline tree other) (path : Path) :
    tree.isLink path = other.isLink path :=
  same.leadsTo_eq (by rintro ⟨⟩ <;> rfl) false path

end SameOutline
end FileTree
end KernelInventory
