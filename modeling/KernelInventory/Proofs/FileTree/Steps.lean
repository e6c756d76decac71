import KernelInventory.Proofs.FileTree.WellFormed

/-!
# Lookups, one name at a time

A lookup goes through the names of a path one by one.  What one name comes to depends on
the tree and on where the name is met, and not on the names behind it: it fails, it
leads on, or a link stands there.  `LooksUp` lists all these steps, and a fact about
lookups is an induction along them.
-/

namespace KernelInventory

/-- What looking up one name comes to. -/
inductive LookupStep
  | fails (error : SystemError)
  | reaches (place : Location)
  | link (target : String)

theorem Node.any_isLink_eq_false_iff {found : Option Node} :
    found.any Node.isLink = false ↔ ∀ target, found ≠ some (.link target) := by
  rcases found with _ | (_ | _ | _) <;> simp [Node.isLink]

namespace FileTree

variable {tree : FileTree}

/-! ## Lookups -/

/-- What looking up a name in `current` comes to. -/
def lookupStep (tree : FileTree) (current : Location) (name : String) : LookupStep :=
  match tree.node? current with
  | none => .fails .noSuchEntry
  | some (.directory _ searchable) =>
    if name = "" then .reaches current
    else if !searchable then .fails .permissionDenied
    else if name = "." then .reaches current
    else if name = ".." then .reaches current.dropLast
    else if longestName < name.utf8ByteSize then .fails .nameTooLong
    else
      match tree.node? (current ++ [name]) with
      | none => .fails .noSuchEntry
      | some (.link target) => .link target
      | some _ => .reaches (current ++ [name])
  | some _ => .fails .notDirectory

/-- A lookup takes one step for its first name and goes on from there.  A link as the
last name stays unless it is to be followed. -/
theorem locateFrom_cons
    (tree : FileTree) (followLast : Bool) (links : Nat) (current : Location)
    (name : String) (rest : List String) :
    tree.locateFrom followLast links current (name :: rest) =
      match tree.lookupStep current name with
      | .fails error => .error error
      | .reaches place => tree.locateFrom followLast links place rest
      | .link target =>
        if rest = [] ∧ !followLast then .ok (current ++ [name])
        else
          match links with
          | 0 => .error .tooManyLinks
          | left + 1 =>
            tree.locateFrom followLast left (startFor target current)
              (Text.splitString '/' target ++ rest) := by
  rw [locateFrom, lookupStep]
  cases tree.node? current with
  | none => rfl
  | some node =>
      cases node with
      | file _ _ | link _ => rfl
      | directory listable searchable =>
          dsimp only
          by_cases empty : name = ""
          · simp only [if_pos empty]
          by_cases locked : (!searchable) = true
          · simp only [if_neg empty, if_pos locked]
          by_cases dot : name = "."
          · simp only [if_neg empty, if_neg locked, if_pos dot]
          by_cases dots : name = ".."
          · simp only [if_neg empty, if_neg locked, if_neg dot, if_pos dots]
          by_cases long : longestName < name.utf8ByteSize
          · simp only [if_neg empty, if_neg locked, if_neg dot, if_neg dots,
              if_pos long]
          simp only [if_neg empty, if_neg locked, if_neg dot, if_neg dots, if_neg long]
          cases tree.node? (current ++ [name]) with
          | none => rfl
          | some node => cases node <;> rfl

/-- What holds of a lookup if it holds of what is left behind each step. -/
theorem lookup_induction
    (tree : FileTree)
    {motive : Nat → Location → List String → Prop}
    (nil : ∀ links current, motive links current [])
    (fails : ∀ links current name rest error,
      tree.lookupStep current name = .fails error →
      motive links current (name :: rest))
    (reaches : ∀ links current name rest place,
      tree.lookupStep current name = .reaches place →
      motive links place rest → motive links current (name :: rest))
    (link : ∀ links current name rest target,
      tree.lookupStep current name = .link target →
      (∀ left, links = left + 1 →
        motive left (startFor target current) (Text.splitString '/' target ++ rest)) →
      motive links current (name :: rest))
    (links : Nat) (current : Location) (names : List String) :
    motive links current names := by
  cases names with
  | nil => exact nil links current
  | cons name rest =>
      cases step : tree.lookupStep current name with
      | fails error => exact fails links current name rest error step
      | reaches place =>
          exact reaches links current name rest place step
            (lookup_induction tree nil fails reaches link links place rest)
      | link target =>
          refine link links current name rest target step fun left more => ?_
          subst more
          exact lookup_induction tree nil fails reaches link
            left (startFor target current) (Text.splitString '/' target ++ rest)
termination_by (links, names.length)

section Lookup

variable {followLast : Bool} {links : Nat} {current place reached : Location}
  {name target : String} {rest : List String}

theorem locateFrom_of_fails
    {error : SystemError}
    (step : tree.lookupStep current name = .fails error) :
    tree.locateFrom followLast links current (name :: rest) = .error error := by
  rw [locateFrom_cons, step]

theorem locateFrom_of_reaches (step : tree.lookupStep current name = .reaches place) :
    tree.locateFrom followLast links current (name :: rest) =
      tree.locateFrom followLast links place rest := by
  rw [locateFrom_cons, step]

/-- A link that is followed puts its target in front of what is left. -/
theorem locateFrom_of_link
    (step : tree.lookupStep current name = .link target)
    (followed : ¬ (rest = [] ∧ (!followLast) = true)) :
    tree.locateFrom followLast (links + 1) current (name :: rest) =
      tree.locateFrom followLast links (startFor target current)
        (Text.splitString '/' target ++ rest) := by
  rw [locateFrom_cons, step]
  exact if_neg followed

/-- Behind a link that is followed, the lookup of its target leads somewhere. -/
theorem exists_left_of_link
    (step : tree.lookupStep current name = .link target)
    (located : tree.locateFrom true links current (name :: rest) = .ok reached) :
    ∃ left, links = left + 1 ∧
      tree.locateFrom true left (startFor target current)
        (Text.splitString '/' target ++ rest) =
        .ok reached := by
  rw [locateFrom_cons, step] at located
  simp only [Bool.not_true, Bool.false_eq_true, and_false, if_false] at located
  cases links with
  | zero => cases located
  | succ left => exact ⟨left, rfl, located⟩

/-- Lookups agree in two trees that agree on every step. -/
theorem locateFrom_congr
    {other : FileTree}
    (same : ∀ current name,
      tree.lookupStep current name = other.lookupStep current name)
    (followLast : Bool) (links : Nat) (current : Location) (names : List String) :
    tree.locateFrom followLast links current names =
      other.locateFrom followLast links current names := by
  induction links, current, names using lookup_induction tree with
  | nil links current => rw [locateFrom, locateFrom]
  | fails links current name rest error step =>
      rw [locateFrom_of_fails step,
        locateFrom_of_fails ((same current name).symm.trans step)]
  | reaches links current name rest place step onward =>
      rw [locateFrom_of_reaches step, onward,
        locateFrom_of_reaches ((same current name).symm.trans step)]
  | link links current name rest target step onward =>
      rw [locateFrom_cons, locateFrom_cons, ← same, step]
      cases links with
      | zero => rfl
      | succ left => simp only [onward left rfl]

end Lookup

/-! ## What a step says about the tree -/

/-- The entries below a place may be looked up. -/
def Searchable (tree : FileTree) (place : Location) : Prop :=
  ∃ listable, tree.node? place = some (.directory listable true)

/-- All that looking up one name can come to, and when. -/
inductive LooksUp (tree : FileTree) (current : Location) : String → LookupStep → Prop
  | nowhere {name : String} :
    tree.node? current = none →
    LooksUp tree current name (.fails .noSuchEntry)
  | noDirectory {name : String} {node : Node} :
    tree.node? current = some node →
    node.isDirectory = false →
    LooksUp tree current name (.fails .notDirectory)
  | stay {name : String} {listable searchable : Bool} :
    tree.node? current = some (.directory listable searchable) →
    name = "" ∨ searchable = true ∧ name = "." →
    LooksUp tree current name (.reaches current)
  | locked {name : String} {listable : Bool} :
    tree.node? current = some (.directory listable false) →
    name ≠ "" →
    LooksUp tree current name (.fails .permissionDenied)
  | up :
    tree.Searchable current →
    LooksUp tree current ".." (.reaches current.dropLast)
  | long {name : String} :
    tree.Searchable current →
    ProperName name →
    longestName < name.utf8ByteSize →
    LooksUp tree current name (.fails .nameTooLong)
  | absent {name : String} :
    tree.Searchable current →
    ProperName name →
    name.utf8ByteSize ≤ longestName →
    tree.node? (current ++ [name]) = none →
    LooksUp tree current name (.fails .noSuchEntry)
  | link {name target : String} :
    tree.Searchable current →
    ProperName name →
    name.utf8ByteSize ≤ longestName →
    tree.node? (current ++ [name]) = some (.link target) →
    LooksUp tree current name (.link target)
  | down {name : String} :
    tree.Searchable current →
    ProperName name →
    name.utf8ByteSize ≤ longestName →
    (∃ node, tree.node? (current ++ [name]) = some node ∧ node.isLink = false) →
    LooksUp tree current name (.reaches (current ++ [name]))

section Steps

variable {followLast : Bool} {links : Nat} {current place : Location}
  {name target : String} {behind : List String} {step : LookupStep}

theorem looksUp (tree : FileTree) (current : Location) (name : String) :
    tree.LooksUp current name (tree.lookupStep current name) := by
  unfold lookupStep
  split
  next nowhere => exact .nowhere nowhere
  next listable searchable here =>
    split_ifs with empty locked dot dots long
    · exact .stay here (.inl empty)
    · obtain rfl : searchable = false := by simpa using locked
      exact .locked here empty
    all_goals
      obtain rfl : searchable = true := by simpa using locked
      have searchable : tree.Searchable current := ⟨listable, here⟩
    · exact .stay here (.inr ⟨rfl, dot⟩)
    · rw [dots]
      exact .up searchable
    · exact .long searchable ⟨empty, dot, dots⟩ long
    · have short := Nat.not_lt.mp long
      split
      next absent => exact .absent searchable ⟨empty, dot, dots⟩ short absent
      next link => exact .link searchable ⟨empty, dot, dots⟩ short link
      next node noLink there =>
        have isNoLink : node.isLink = false := by
          cases node with
          | link target => exact absurd rfl (noLink target)
          | file _ _ | directory _ _ => rfl
        exact .down searchable ⟨empty, dot, dots⟩ short ⟨node, there, isNoLink⟩
  next node noDirectory here =>
    refine .noDirectory here ?_
    cases node with
    | directory listable searchable =>
        exact absurd rfl (noDirectory listable searchable)
    | file _ _ | link _ => rfl

/-- In a directory that may be searched, a proper name that is not too
long is that of an entry. -/
theorem lookupStep_eq
    (searchable : tree.Searchable current)
    (proper : ProperName name)
    (short : name.utf8ByteSize ≤ longestName) :
    tree.lookupStep current name =
      match tree.node? (current ++ [name]) with
      | none => .fails .noSuchEntry
      | some (.link target) => .link target
      | some _ => .reaches (current ++ [name]) := by
  obtain ⟨listable, here⟩ := searchable
  rw [lookupStep, here]
  simp only [if_neg proper.1, if_neg proper.2.1, if_neg proper.2.2, Bool.not_true,
    Bool.false_eq_true, if_false, if_neg (Nat.not_lt.mpr short)]

theorem LooksUp.eq (looks : tree.LooksUp current name step) :
    tree.lookupStep current name = step := by
  cases looks with
  | nowhere here => rw [lookupStep, here]
  | @noDirectory _ node here noDirectory =>
      rw [lookupStep, here]
      cases node with
      | directory _ _ => cases noDirectory
      | file _ _ | link _ => rfl
  | stay here silent =>
      rw [lookupStep, here]
      rcases silent with rfl | ⟨rfl, rfl⟩
      · rfl
      · rfl
  | locked here nonempty =>
      rw [lookupStep, here]
      simp [nonempty]
  | up searchable =>
      obtain ⟨listable, here⟩ := searchable
      rw [lookupStep, here]
      rfl
  | long searchable proper long =>
      obtain ⟨listable, here⟩ := searchable
      rw [lookupStep, here]
      simp [proper.1, proper.2.1, proper.2.2, long]
  | absent searchable proper short there =>
      rw [lookupStep_eq searchable proper short, there]
  | link searchable proper short there =>
      rw [lookupStep_eq searchable proper short, there]
  | down searchable proper short entry =>
      obtain ⟨node, there, noLink⟩ := entry
      rw [lookupStep_eq searchable proper short, there]
      cases node with
      | link target => cases noLink
      | file _ _ | directory _ _ => rfl

theorem lookupStep_eq_iff : tree.lookupStep current name = step ↔
    tree.LooksUp current name step :=
  ⟨fun same => same ▸ tree.looksUp current name, LooksUp.eq⟩

theorem node?_of_lookupStep (step : tree.lookupStep current name = .link target) :
    tree.node? (current ++ [name]) = some (.link target) := by
  cases lookupStep_eq_iff.mp step with
  | link _ _ _ there => exact there

/-- A proper name that leads somewhere leads to the entry of this name. -/
theorem LooksUp.of_proper
    (looks : tree.LooksUp current name (.reaches place))
    (proper : ProperName name) :
    tree.Searchable current ∧ name.utf8ByteSize ≤ longestName ∧
      place = current ++ [name] ∧
      ∃ node, tree.node? place = some node ∧ node.isLink = false := by
  cases looks with
  | stay _ silent => exact absurd silent (by simp [proper.1, proper.2.1])
  | up _ => exact absurd rfl proper.2.2
  | down searchable _ short entry => exact ⟨searchable, short, rfl, entry⟩

theorem locateFrom_up (searchable : tree.Searchable current) :
    tree.locateFrom followLast links current (".." :: behind) =
      tree.locateFrom followLast links current.dropLast behind :=
  locateFrom_of_reaches (LooksUp.up searchable).eq

theorem locateFrom_down
    (searchable : tree.Searchable current)
    (proper : ProperName name)
    (short : name.utf8ByteSize ≤ longestName)
    (noLink : ∃ node, tree.node? (current ++ [name]) = some node ∧
      node.isLink = false) :
    tree.locateFrom followLast links current (name :: behind) =
      tree.locateFrom followLast links (current ++ [name]) behind :=
  locateFrom_of_reaches (LooksUp.down searchable proper short noLink).eq

theorem locateFrom_link
    (searchable : tree.Searchable current)
    (proper : ProperName name)
    (short : name.utf8ByteSize ≤ longestName)
    (link : tree.node? (current ++ [name]) = some (.link target)) :
    tree.locateFrom true (links + 1) current (name :: behind) =
      tree.locateFrom true links (startFor target current)
        (Text.splitString '/' target ++ behind) :=
  locateFrom_of_link (LooksUp.link searchable proper short link).eq (by simp)

/-- An empty name and the name `.` lead nowhere else. -/
theorem of_locateFrom_silent
    {reached : Location}
    (silent : name = "" ∨ name = ".")
    (located : tree.locateFrom followLast links current (name :: behind) =
      .ok reached) :
    tree.locateFrom followLast links current behind = .ok reached := by
  have looked := tree.looksUp current name
  rw [locateFrom_cons] at located
  generalize tree.lookupStep current name = step at looked located
  cases looked with
  | nowhere _ | noDirectory _ _ | locked _ _ => cases located
  | stay _ _ => exact located
  | up _ => exact absurd silent (by decide)
  | long _ proper _ | absent _ proper _ _ | link _ proper _ _ | down _ proper _ _ =>
      exact absurd silent (by simp [proper.1, proper.2.1])

/-- Whoever looks up a name that is not empty looks in a directory that may be
searched. -/
theorem searchable_of_locateFrom
    {reached : Location}
    (nonempty : name ≠ "")
    (located : tree.locateFrom followLast links current (name :: behind) =
      .ok reached) :
    tree.Searchable current := by
  have looked := tree.looksUp current name
  rw [locateFrom_cons] at located
  generalize tree.lookupStep current name = step at looked located
  cases looked with
  | nowhere _ | noDirectory _ _ | locked _ _ => cases located
  | stay here silent =>
      obtain ⟨rfl, -⟩ := silent.resolve_left nonempty
      exact ⟨_, here⟩
  | up searchable | long searchable _ _ => exact searchable
  | absent searchable _ _ _ | link searchable _ _ _ | down searchable _ _ _ =>
      exact searchable

end Steps

end FileTree
end KernelInventory
