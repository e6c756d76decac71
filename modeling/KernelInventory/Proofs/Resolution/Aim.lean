import KernelInventory.Resolution.Run
import Mathlib

/-!
# What is done about a target

`Aims` lists what can be done about the target of a `source` line, and when: where the
path of the target leads, whether it is selected, whether it is being read already and
whether it can be read decide.
-/

namespace KernelInventory
namespace Resolution

/-- All that can be done about a target, and when. -/
inductive Aims (tree : FileTree) (settings : Settings) (root : Path)
    (chain : List Location) (text : String) : Aim → Prop
  | fault :
    tree.realLocation (root / Path.ofString text) = .error .nullByte →
    Aims tree settings root chain text (.fault .nullByte)
  | unresolved {failure : FileFailure} :
    tree.realLocation (root / Path.ofString text) = .error failure →
    failure ≠ .nullByte →
    Aims tree settings root chain text (.skipped (.unresolved text failure))
  | filtered {target : Location} :
    tree.realLocation (root / Path.ofString text) = .ok target →
    selected settings target = false →
    Aims tree settings root chain text (.filtered target)
  | cycle {target : Location} :
    tree.realLocation (root / Path.ofString text) = .ok target →
    selected settings target = true →
    target ∈ chain →
    Aims tree settings root chain text (.skipped (.cycle target))
  | locked {target : Location} {error : SystemError} :
    tree.realLocation (root / Path.ofString text) = .ok target →
    selected settings target = true →
    target ∉ chain →
    tree.openAt target = .error error →
    Aims tree settings root chain text (.locked target error)
  | follow {target : Location} {bytes : List UInt8} :
    tree.realLocation (root / Path.ofString text) = .ok target →
    selected settings target = true →
    target ∉ chain →
    tree.openAt target = .ok bytes →
    Aims tree settings root chain text (.follow target bytes)

theorem aims
    (tree : FileTree) (settings : Settings) (root : Path) (chain : List Location)
    (text : String) :
    Aims tree settings root chain text (aim tree settings root chain text) := by
  unfold aim
  split
  next found => exact .fault found
  next failure proper found =>
    exact .unresolved found proper
  next target found =>
    cases chosen : selected settings target with
    | false => exact .filtered found chosen
    | true =>
        rw [Bool.not_true, if_neg Bool.false_ne_true]
        split
        next member => exact .cycle found chosen member
        next fresh =>
          split
          next denied => exact .locked found chosen fresh denied
          next opened => exact .follow found chosen fresh opened

section Aims

variable {tree : FileTree} {settings : Settings} {root : Path} {chain : List Location}
  {text : String} {target : Location}

theorem Aims.eq
    {done : Aim}
    (aims : Aims tree settings root chain text done) :
    aim tree settings root chain text = done := by
  unfold aim
  cases aims with
  | fault found => rw [found]
  | @unresolved failure found proper =>
      rw [found]
      cases failure with
      | nullByte => exact absurd rfl proper
      | linkLoop _ | refused _ _ => rfl
  | filtered found unselected => simp [found, unselected]
  | cycle found chosen member => simp [found, chosen, member]
  | locked found chosen fresh denied => simp [found, chosen, fresh, denied]
  | follow found chosen fresh readable => simp [found, chosen, fresh, readable]

theorem aim_eq_iff {done : Aim} :
    aim tree settings root chain text = done ↔
      Aims tree settings root chain text done :=
  ⟨fun same => same ▸ aims tree settings root chain text, Aims.eq⟩

/-- A target is followed if it is found and selected, is not being read
already, and can be opened. -/
theorem aim_eq_follow_iff {bytes : List UInt8} :
    aim tree settings root chain text = .follow target bytes ↔
      tree.realLocation (root / Path.ofString text) = .ok target ∧
        selected settings target = true ∧ target ∉ chain ∧
        tree.openAt target = .ok bytes := by
  rw [aim_eq_iff]
  constructor
  · intro follows
    cases follows with
    | follow found chosen fresh opened => exact ⟨found, chosen, fresh, opened⟩
  · rintro ⟨found, chosen, fresh, readable⟩
    exact .follow found chosen fresh readable

/-- A target that is to be opened has been found by its location, and is not being
read. -/
theorem of_aim_enters
    (enters : (∃ error, aim tree settings root chain text = .locked target error) ∨
      ∃ bytes, aim tree settings root chain text = .follow target bytes) :
    tree.realLocation (root / Path.ofString text) = .ok target ∧ target ∉ chain := by
  obtain ⟨error, locked⟩ | ⟨bytes, followed⟩ := enters
  · cases aim_eq_iff.mp locked with
    | locked found _ fresh _ => exact ⟨found, fresh⟩
  · cases aim_eq_iff.mp followed with
    | follow found _ fresh _ => exact ⟨found, fresh⟩

/-- A target that is locked cannot be opened, for the same reason. -/
theorem of_aim_locked
    {error : SystemError}
    (locked : aim tree settings root chain text = .locked target error) :
    tree.openAt target = .error error := by
  cases aim_eq_iff.mp locked with
  | locked _ _ _ denied => exact denied

/-- A `source` line fails at once exactly if NUL keeps its path from
having a canonical form. -/
theorem aim_eq_fault_iff {failure : FileFailure} :
    aim tree settings root chain text = .fault failure ↔
      failure = .nullByte ∧ tree.realLocation (root / Path.ofString text) =
        .error .nullByte := by
  rw [aim_eq_iff]
  constructor
  · intro faults
    cases faults with
    | fault found => exact ⟨rfl, found⟩
  · rintro ⟨rfl, found⟩
    exact .fault found

/-- A target is filtered out only if not every target is followed. -/
theorem aim_ne_filtered
    (all : settings.includeAll = true)
    (root : Path) (chain : List Location) (text : String) (target : Location) :
    aim tree settings root chain text ≠ .filtered target := by
  intro filtered
  cases aim_eq_iff.mp filtered with
  | filtered _ unselected => simp [selected, all] at unselected

end Aims

end Resolution
end KernelInventory
