import KernelInventory.FileTree.Canonical
import KernelInventory.Proofs.FileTree.Steps

/-!
# Replacing links, one name at a time

The canonical form of a path is found name by name, as a lookup is.  What one name comes
to depends on the tree and on the path that the name stands behind: it fails, the path
goes on, or a link has to be replaced.  `Replaces` lists all these steps.  Only what a
link comes to depends on more, on the links that are being replaced already.
-/

namespace KernelInventory

/-- What one name of a path comes to when its links are replaced. -/
inductive ReplacementStep
  | fails (failure : FileFailure)
  | reaches (path : Path)
  | link (location : Location) (target : String)

namespace FileTree

variable {tree : FileTree}

/-- The path that a link's target starts at when the link is met behind `current`. -/
def pathFor (target : String) (current : Path) : Path :=
  if target.toList.head? = some '/' then ⟨.root, []⟩ else current

/-- What a name behind `current` comes to when links are replaced. -/
def replacementStep (tree : FileTree) (strict : Bool) (current : Path) (name : String) :
    ReplacementStep :=
  if name = "" ∨ name = "." then .reaches current
  else if name = ".." then .reaches current.up
  else if name.toList.contains '\x00' then .fails .nullByte
  else
    match tree.locate false (current.child name) with
    | .error error =>
      if strict then .fails (.refused error (current.child name).toString)
      else .reaches (current.child name)
    | .ok location =>
      match tree.node? location with
      | some (.link target) => .link location target
      | _ => .reaches (current.child name)

/-- The replacement takes one step for the first name and goes on from there.  A link is
replaced before what stands behind it, and is a loop if it is being replaced already. -/
theorem expand_cons
    (tree : FileTree) (strict : Bool) (pending : List Sighting) (current : Path)
    (name : String) (rest : List String) :
    tree.expand strict pending current (name :: rest) =
      match tree.replacementStep strict current name with
      | .fails failure => .error failure
      | .reaches path => tree.expand strict pending path rest
      | .link location target =>
        if pending.contains (sightingOf (current.child name) location) then
          if strict then .error (tree.loopFailure (current.child name))
          else .ok
            (.looping (current.child name / Path.ofString ("/".intercalate rest)))
        else
          match tree.expand strict (sightingOf (current.child name) location :: pending)
              (pathFor target current) (Text.splitString '/' target) with
          | .ok (.settled reached) => tree.expand strict pending reached rest
          | .ok (.looping stuck) =>
            .ok (.looping (stuck / Path.ofString ("/".intercalate rest)))
          | .error failure => .error failure := by
  rw [expand, replacementStep]
  by_cases silent : name = "" ∨ name = "."
  · simp only [if_pos silent]
  by_cases up : name = ".."
  · simp only [if_neg silent, if_pos up]
  by_cases null : name.toList.contains '\x00' = true
  · simp only [if_neg silent, if_neg up, if_pos null]
  simp only [if_neg silent, if_neg up, if_neg null]
  cases located : tree.locate false (current.child name) with
  | error error =>
      dsimp only
      split <;> rfl
  | ok location =>
      dsimp only
      cases found : tree.node? location with
      | none => rfl
      | some node => cases node <;> rfl

/-- All that one name of a path can come to when links are replaced, and when. -/
inductive Replaces (tree : FileTree) (strict : Bool) (current : Path) :
    String → ReplacementStep → Prop
  | stay {name : String} :
    name = "" ∨ name = "." →
    Replaces tree strict current name (.reaches current)
  | up : Replaces tree strict current ".." (.reaches current.up)
  | null {name : String} :
    name.toList.contains '\x00' = true →
    Replaces tree strict current name (.fails .nullByte)
  | missing {name : String} {error : SystemError} :
    strict = true →
    ProperName name →
    name.toList.contains '\x00' = false →
    tree.locate false (current.child name) = .error error →
    Replaces tree strict current name
      (.fails (.refused error (current.child name).toString))
  | skip {name : String} {error : SystemError} :
    strict = false →
    ProperName name →
    name.toList.contains '\x00' = false →
    tree.locate false (current.child name) = .error error →
    Replaces tree strict current name (.reaches (current.child name))
  | link {name target : String} {location : Location} :
    ProperName name →
    name.toList.contains '\x00' = false →
    tree.locate false (current.child name) = .ok location →
    tree.node? location = some (.link target) →
    Replaces tree strict current name (.link location target)
  | down {name : String} {location : Location} :
    ProperName name →
    name.toList.contains '\x00' = false →
    tree.locate false (current.child name) = .ok location →
    (tree.node? location).any Node.isLink = false →
    Replaces tree strict current name (.reaches (current.child name))

section ReplacementSteps

variable {strict : Bool} {current : Path} {name target : String} {location : Location}
  {step : ReplacementStep}

/-- What a proper name comes to shows when it is looked up. -/
theorem replacementStep_eq
    (proper : ProperName name)
    (noNull : name.toList.contains '\x00' = false) :
    tree.replacementStep strict current name =
      match tree.locate false (current.child name) with
      | .error error =>
        if strict then .fails (.refused error (current.child name).toString)
        else .reaches (current.child name)
      | .ok location =>
        match tree.node? location with
        | some (.link target) => .link location target
        | _ => .reaches (current.child name) := by
  rw [replacementStep, if_neg (by simp [proper.1, proper.2.1]), if_neg proper.2.2,
    if_neg (Bool.eq_false_iff.mp noNull)]

theorem replaces (tree : FileTree) (strict : Bool) (current : Path) (name : String) :
    tree.Replaces strict current name (tree.replacementStep strict current name) := by
  by_cases silent : name = "" ∨ name = "."
  · rw [replacementStep, if_pos silent]
    exact .stay silent
  by_cases up : name = ".."
  · rw [replacementStep, if_neg silent, if_pos up, up]
    exact .up
  cases null : name.toList.contains '\x00' with
  | true =>
      rw [replacementStep, if_neg silent, if_neg up, if_pos null]
      exact .null null
  | false =>
      have proper : ProperName name :=
        ⟨fun h => silent (.inl h), fun h => silent (.inr h), up⟩
      rw [replacementStep_eq proper null]
      cases located : tree.locate false (current.child name) with
      | error error =>
          cases strict with
          | true => exact .missing rfl proper null located
          | false => exact .skip rfl proper null located
      | ok location =>
          dsimp only
          split
          next link => exact .link proper null located link
          next noLink =>
            exact .down proper null located (Node.any_isLink_eq_false_iff.mpr noLink)

theorem Replaces.eq (replaces : tree.Replaces strict current name step) :
    tree.replacementStep strict current name = step := by
  cases replaces with
  | stay silent => exact if_pos silent
  | up => rw [replacementStep, if_neg (by decide), if_pos rfl]
  | null null =>
      have silent : ¬ (name = "" ∨ name = ".") := by
        rintro (rfl | rfl) <;> exact absurd null (by decide)
      have noUp : name ≠ ".." := by
        rintro rfl
        exact absurd null (by decide)
      rw [replacementStep, if_neg silent, if_neg noUp, if_pos null]
  | missing strict proper noNull missing =>
      rw [replacementStep_eq proper noNull, missing]
      exact if_pos strict
  | skip lax proper noNull missing =>
      rw [replacementStep_eq proper noNull, missing]
      exact if_neg (Bool.eq_false_iff.mp lax)
  | link proper noNull located link =>
      rw [replacementStep_eq proper noNull, located]
      simp only [link]
  | down proper noNull located noLink =>
      rw [replacementStep_eq proper noNull, located]
      dsimp only
      split
      next link => exact absurd link (Node.any_isLink_eq_false_iff.mp noLink _)
      · rfl

theorem replacementStep_eq_iff :
    tree.replacementStep strict current name = step ↔
      tree.Replaces strict current name step :=
  ⟨fun same => same ▸ tree.replaces strict current name, Replaces.eq⟩

theorem node?_of_replacementStep
    (step : tree.replacementStep strict current name = .link location target) :
    tree.node? location = some (.link target) := by
  cases replacementStep_eq_iff.mp step with
  | link _ _ _ link => exact link

/-- A name comes to the same if the entries need not be there, unless it fails. -/
theorem replacementStep_lax (tree : FileTree) (current : Path) (name : String) :
    (∃ failure, tree.replacementStep true current name = .fails failure) ∨
      tree.replacementStep true current name = tree.replacementStep false current
        name := by
  have replaced := tree.replaces true current name
  generalize tree.replacementStep true current name = step at replaced
  cases replaced with
  | null _ | missing _ _ _ _ => exact .inl ⟨_, rfl⟩
  | skip lax _ _ _ => cases lax
  | stay silent => exact .inr (Replaces.stay silent).eq.symm
  | up => exact .inr Replaces.up.eq.symm
  | link proper noNull located link =>
      exact .inr (Replaces.link proper noNull located link).eq.symm
  | down proper noNull located noLink =>
      exact .inr (Replaces.down proper noNull located noLink).eq.symm

end ReplacementSteps

/-- What holds of a replacement if it holds of what is left behind each step; of a
link that is not being replaced, it has to hold of the target and of all that can be
left when it is replaced. -/
theorem expand_induction
    (tree : FileTree) (strict : Bool)
    {motive : List Sighting → Path → List String → Prop}
    (nil : ∀ pending current, motive pending current [])
    (fails : ∀ pending current name rest failure,
      tree.replacementStep strict current name = .fails failure →
        motive pending current (name :: rest))
    (reaches : ∀ pending current name rest path,
      tree.replacementStep strict current name = .reaches path →
        motive pending path rest → motive pending current (name :: rest))
    (again : ∀ pending current name rest location target,
      tree.replacementStep strict current name = .link location target →
        pending.contains (sightingOf (current.child name) location) = true →
          motive pending current (name :: rest))
    (link : ∀ pending current name rest location target,
      tree.replacementStep strict current name = .link location target →
        pending.contains (sightingOf (current.child name) location) = false →
          motive (sightingOf (current.child name) location :: pending)
            (pathFor target current) (Text.splitString '/' target) →
            (∀ reached, motive pending reached rest) →
            motive pending current (name :: rest))
    (pending : List Sighting) (current : Path) (names : List String) :
    motive pending current names := by
  cases names with
  | nil => exact nil pending current
  | cons name rest =>
      have onward := fun path =>
        expand_induction tree strict nil fails reaches again link pending path rest
      cases step : tree.replacementStep strict current name with
      | fails failure => exact fails pending current name rest failure step
      | reaches path => exact reaches pending current name rest path step (onward path)
      | link location target =>
          cases idle : pending.contains (sightingOf (current.child name) location) with
          | true => exact again pending current name rest location target step idle
          | false =>
              have found := node?_of_replacementStep step
              exact link pending current name rest location target step idle
                (expand_induction tree strict nil fails reaches again link _ _ _) onward
termination_by ((tree.idleSightings pending).length, names.length)
decreasing_by
  · exact Prod.Lex.right _ (by simp)
  -- a target may have any number of names, but its link cannot be replaced in there
  -- once more
  · exact Prod.Lex.left _ _ (idleSightings_lt found (Bool.eq_false_iff.mp idle))

section Replacement

variable {strict : Bool} {pending : List Sighting} {current path reached : Path}
  {name target : String} {rest : List String} {location : Location}

theorem expand_of_fails
    {failure : FileFailure}
    (step : tree.replacementStep strict current name = .fails failure) :
    tree.expand strict pending current (name :: rest) = .error failure := by
  rw [expand_cons, step]

theorem expand_of_reaches
    (step : tree.replacementStep strict current name = .reaches path) :
    tree.expand strict pending current (name :: rest) =
      tree.expand strict pending path rest := by
  rw [expand_cons, step]

/-- A link that is being replaced already is a loop, and not replaced once more. -/
theorem expand_of_again
    (step : tree.replacementStep strict current name = .link location target)
    (again : pending.contains (sightingOf (current.child name) location) = true) :
    tree.expand strict pending current (name :: rest) =
      if strict then .error (tree.loopFailure (current.child name))
      else .ok
        (.looping (current.child name / Path.ofString ("/".intercalate rest))) := by
  rw [expand_cons, step]
  exact if_pos again

theorem expand_of_idle
    (step : tree.replacementStep strict current name = .link location target)
    (idle : pending.contains (sightingOf (current.child name) location) = false) :
    tree.expand strict pending current (name :: rest) =
      match tree.expand strict (sightingOf (current.child name) location :: pending)
          (pathFor target current) (Text.splitString '/' target) with
      | .ok (.settled reached) => tree.expand strict pending reached rest
      | .ok (.looping stuck) =>
          .ok (.looping (stuck / Path.ofString ("/".intercalate rest)))
      | .error failure => .error failure := by
  rw [expand_cons, step]
  exact if_neg (Bool.eq_false_iff.mp idle)

/-- Where a link has been replaced, the replacement goes on with what stands behind
it. -/
theorem expand_of_link
    (step : tree.replacementStep strict current name = .link location target)
    (idle : pending.contains (sightingOf (current.child name) location) = false)
    (inside : tree.expand strict (sightingOf (current.child name) location :: pending)
      (pathFor target current) (Text.splitString '/' target) = .ok (.settled reached)) :
    tree.expand strict pending current (name :: rest) =
      tree.expand strict pending reached rest := by
  rw [expand_of_idle step idle, inside]

/-- Where the replacement of a path that has a link in front comes to its end, so
does that of the link. -/
theorem exists_inside_of_link
    (step : tree.replacementStep strict current name = .link location target)
    (idle : pending.contains (sightingOf (current.child name) location) = false)
    (settled : tree.expand strict pending current (name :: rest) =
      .ok (.settled reached)) :
    ∃ middle, tree.expand strict (sightingOf (current.child name) location :: pending)
        (pathFor target current) (Text.splitString '/' target) = .ok (.settled middle) ∧
      tree.expand strict pending middle rest = .ok (.settled reached) := by
  rw [expand_of_idle step idle] at settled
  split at settled
  next middle inside =>
    exact ⟨middle, inside, settled⟩
  · cases settled
  · cases settled

theorem expand_ne_settled_of_again
    (step : tree.replacementStep strict current name = .link location target)
    (again : pending.contains (sightingOf (current.child name) location) = true) :
    tree.expand strict pending current (name :: rest) ≠ .ok (.settled reached) := by
  rw [expand_of_again step again]
  split <;> nofun

/-- The replacements of links agree in two trees that agree on every step. -/
theorem expand_congr
    {other : FileTree}
    (same : ∀ current name,
      tree.replacementStep strict current name = other.replacementStep strict
        current name)
    (loops : strict = true → ∀ link, tree.loopFailure link = other.loopFailure link)
    (pending : List Sighting) (current : Path) (names : List String) :
    tree.expand strict pending current names = other.expand strict pending current
      names := by
  induction pending, current, names using expand_induction tree strict with
  | nil pending current => rw [expand, expand]
  | fails pending current name rest failure step =>
      rw [expand_of_fails step, expand_of_fails ((same current name).symm.trans step)]
  | reaches pending current name rest path step onward =>
      rw [expand_of_reaches step, onward,
        expand_of_reaches ((same current name).symm.trans step)]
  | again pending current name rest location target step again =>
      rw [expand_of_again step again,
        expand_of_again ((same current name).symm.trans step) again]
      cases strict with
      | true => rw [if_pos rfl, if_pos rfl, loops rfl]
      | false => rfl
  | link pending current name rest location target step idle inside onward =>
      rw [expand_of_idle step idle,
        expand_of_idle ((same current name).symm.trans step) idle, inside]
      simp only [onward]

end Replacement

end FileTree
end KernelInventory
