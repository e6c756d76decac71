import KernelInventory.Proofs.FileTree.Plain
import KernelInventory.Proofs.FileTree.Refusal
import KernelInventory.Proofs.FileTree.WellFormed

/-!
# Legible trees

In a legible tree every entry is a directory that may be listed and searched, or a file
that may be read and holds a text.  There are no links, and the character NUL is
nowhere.  A lookup in there fails only if nothing is there or if a name or the path is
too long, and no path leads into a loop.
-/

namespace KernelInventory
namespace FileTree

/-- A tree of directories and texts, all of which may be read, without
links and without NUL. -/
structure Legible (tree : FileTree) : Prop where
  wellFormed : tree.WellFormed
  /-- No name holds NUL, neither of an entry nor on the way to the working directory. -/
  plainNames : ∀ location ∈ tree.workingDirectory :: tree.locations, ∀ name ∈ location,
    '\x00' ∉ name.toList
  readable : ∀ entry ∈ tree.entries, entry.2 = .openDirectory ∨
    ∃ bytes, entry.2 = .file bytes true ∧ '\x00' ∉ Text.Utf8.decode bytes

/-- A path, or a name in it, is too long for the file system. -/
def TooLong (tree : FileTree) (path : Path) : Prop :=
  path.hasNull = false ∧ tree.locate true path = .error .nameTooLong

namespace Legible

variable {tree : FileTree}

theorem node?_cases (legible : tree.Legible) (location : Location) :
    tree.node? location = none ∨ tree.node? location = some .openDirectory ∨
      ∃ bytes, tree.node? location = some (.file bytes true) ∧
        '\x00' ∉ Text.Utf8.decode bytes := by
  by_cases atRoot : location = []
  · subst atRoot
    exact .inr (.inl rfl)
  · cases found : tree.node? location with
    | none => exact .inl rfl
    | some node =>
        rcases legible.readable _ (mem_entries_of_node? atRoot found) with
          same | ⟨bytes, same, plain⟩
        · exact .inr (.inl (congrArg some same))
        · exact .inr (.inr ⟨bytes, congrArg some same, plain⟩)

theorem noLink (legible : tree.Legible) (location : Location) (target : String) :
    tree.node? location ≠ some (.link target) := by
  intro link
  rcases legible.node?_cases location with absent | directory | ⟨bytes, file, -⟩
  · cases absent.symm.trans link
  · cases directory.symm.trans link
  · cases file.symm.trans link

theorem plainLinks (legible : tree.Legible) : tree.PlainLinks :=
  fun location target link => absurd link (legible.noLink location target)

/-- The text of a file that is read holds no NUL. -/
theorem plain_of_readAt
    (legible : tree.Legible)
    {location : Location} {bytes : List UInt8}
    (opened : tree.readAt location = .ok bytes) :
    '\x00' ∉ Text.Utf8.decode bytes := by
  unfold readAt at opened
  rcases legible.node?_cases location with absent | directory | ⟨content, file, plain⟩
  · rw [absent] at opened
    cases opened
  · rw [directory] at opened
    cases opened
  · rw [file] at opened
    obtain rfl := Except.ok.inj opened
    exact plain

/-! ## Lookups -/

section Lookups

variable {followLast : Bool}

theorem locateFrom_error_cases
    (legible : tree.Legible)
    {links : Nat} {current : Location} {names : List String} {error : SystemError}
    (failed : tree.locateFrom followLast links current names = .error error) :
    error = .noSuchEntry ∨ error = .notDirectory ∨ error = .nameTooLong := by
  induction links, current, names using lookup_induction tree with
  | nil links current =>
      rw [locateFrom] at failed
      cases failed
  | fails links current name rest cause step =>
      rw [locateFrom_of_fails step] at failed
      obtain rfl := Except.error.inj failed
      cases lookupStep_eq_iff.mp step with
      | nowhere _ | absent _ _ _ _ => exact .inl rfl
      | noDirectory _ _ => exact .inr (.inl rfl)
      | long _ _ _ => exact .inr (.inr rfl)
      | locked here _ =>
          rcases legible.node?_cases current with absent | directory | ⟨bytes, file, -⟩
          · cases absent.symm.trans here
          · cases directory.symm.trans here
          · cases file.symm.trans here
  | reaches links current name rest place step onward =>
      rw [locateFrom_of_reaches step] at failed
      exact onward failed
  | link links current name rest target step _ =>
      exact absurd (node?_of_lookupStep step) (legible.noLink _ _)

theorem locate_error_cases
    (legible : tree.Legible)
    {path : Path} {error : SystemError}
    (failed : tree.locate followLast path = .error error) :
    error = .noSuchEntry ∨ error = .notDirectory ∨ error = .nameTooLong := by
  unfold locate at failed
  split at failed
  · obtain rfl := Except.error.inj failed
    exact .inr (.inr rfl)
  · exact legible.locateFrom_error_cases failed

end Lookups

/-- In a legible tree, a path is refused only if it is too long. -/
theorem refuses_iff
    (legible : tree.Legible)
    {path : Path} {failure : FileFailure} :
    Refuses tree path failure ↔
      tree.TooLong path ∧ failure = .refused .nameTooLong path.toString := by
  constructor
  · rintro ⟨noNull, error, failed, present, rfl⟩
    rcases legible.locate_error_cases failed with rfl | rfl | rfl
    · cases present
    · cases present
    · exact ⟨⟨noNull, failed⟩, rfl⟩
  · rintro ⟨⟨noNull, failed⟩, rfl⟩
    exact ⟨noNull, .nameTooLong, failed, rfl, rfl⟩

theorem isDirectory_eq_error_iff
    (legible : tree.Legible)
    {path : Path} {failure : FileFailure} :
    tree.isDirectory path = .error failure ↔
      tree.TooLong path ∧ failure = .refused .nameTooLong path.toString :=
  leadsTo_eq_error_iff.trans legible.refuses_iff

/-! ## Canonical paths -/

/-- Without links there is nothing to be replaced: a path is left as it is
written, unless it holds NUL, or everything on its way is asked for and
something is not there. -/
theorem expand_cases
    (legible : tree.Legible)
    (strict : Bool) (pending : List Sighting) (current : Path) (names : List String) :
    (∃ path, tree.expand strict pending current names = .ok (.settled path)) ∨
      tree.expand strict pending current names = .error .nullByte ∨
      strict = true ∧ ∃ error place,
        tree.expand strict pending current names = .error (.refused error place) ∧
          error ≠ .tooManyLinks := by
  induction pending, current, names using expand_induction tree strict with
  | nil pending current => exact .inl ⟨current, by rw [expand]⟩
  | fails pending current name rest failure step =>
      rw [expand_of_fails step]
      cases replacementStep_eq_iff.mp step with
      | null _ => exact .inr (.inl rfl)
      | @missing _ error asked _ _ missing =>
          refine .inr (.inr ⟨asked, error, _, rfl, ?_⟩)
          rcases legible.locate_error_cases missing with rfl | rfl | rfl
          · decide
          · decide
          · decide
  | reaches pending current name rest path step onward =>
      rw [expand_of_reaches step]
      exact onward
  | again pending current name rest location target step _
  | link pending current name rest location target step _ _ _ =>
      exact absurd (node?_of_replacementStep step) (legible.noLink _ _)

/-- A path that cannot be followed is refused, or holds NUL. -/
theorem realLocation_error_cases
    (legible : tree.Legible)
    {path : Path} {failure : FileFailure}
    (failed : tree.realLocation path = .error failure) :
    (∃ error place, failure = .refused error place) ∨ failure = .nullByte := by
  unfold realLocation expandPath at failed
  rcases legible.expand_cases true []
    (if path.isAbsolute then ⟨.root, []⟩ else Path.here)
      path.names with ⟨reached, settled⟩ | null | ⟨-, error, place, refused, noLoop⟩
  · rw [settled] at failed
    cases failed
  · rw [null] at failed
    exact .inr (Except.error.inj failed).symm
  · rw [refused] at failed
    refine .inl ⟨error, place, ?_⟩
    cases error with
    | tooManyLinks => exact absurd rfl noLoop
    | _ => exact (Except.error.inj failed).symm

/-- Every path without NUL has a canonical form. -/
theorem exists_realPath
    (legible : tree.Legible)
    {path : Path}
    (noNull : path.hasNull = false) :
    ∃ canonical, tree.realPath path = .ok canonical := by
  have plainNames : ∀ name ∈ path.names, '\x00' ∉ name.toList := by
    intro name member holds
    rw [Path.hasNull_iff.mpr ⟨name, member, holds⟩] at noNull
    cases noNull
  unfold realPath expandPath
  rcases legible.expand_cases false []
    (if path.isAbsolute then ⟨.root, []⟩ else Path.here)
      path.names with ⟨reached, settled⟩ | null | ⟨asked, -⟩
  · rw [settled]
    dsimp only [Expansion.path]
    split
    next looped =>
      rcases legible.locate_error_cases looped with same | same | same
      · cases same
      · cases same
      · cases same
    · exact ⟨_, rfl⟩
  · exact absurd null (expand_ne_nullByte legible.plainLinks false [] _ plainNames)
  · cases asked

end Legible
end FileTree
end KernelInventory
