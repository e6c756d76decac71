import KernelInventory.Proofs.Component.Growth
import KernelInventory.Proofs.Resolution.Processing

/-!
# Following every target

A resolution that follows every target also does what one does that keeps to the
architecture part of the tree, and does other things in between.  A target that both
follow is met on the same chain by both: only such targets lead to the `source` line, so
that nothing is a cycle to one of them and not to the other.  The files that only the
larger resolution reads stand behind lines that the smaller one passes over.
-/

namespace KernelInventory
namespace Resolution

/-- A result says no more than another one. -/
structure Result.Within (small large : Result) : Prop where
  files : small.files.Sublist large.files
  issues : small.issues.Sublist large.issues
  sourceDirectories : small.sourceDirectories ⊆ large.sourceDirectories
  table : small.table.Within large.table

namespace Settings

/-- The same settings, with every target followed or not. -/
def including (settings : Settings) (all : Bool) : Settings :=
  { settings with includeAll := all }

end Settings

section Aims

variable (tree : FileTree) (settings : Settings) (root : Path) (chain : List Location)
  (text : String)

/-- What is done about a target that is not filtered out does not depend on what else is
followed. -/
theorem aim_including :
    (∃ target, aim tree (settings.including false) root chain text = .filtered target) ∨
      aim tree (settings.including true) root chain text =
        aim tree (settings.including false) root chain text := by
  have aimed := aims tree (settings.including false) root chain text
  generalize aim tree (settings.including false) root chain text = done at aimed
  have selects : ∀ target, selected (settings.including true) target = true :=
    fun _ => rfl
  cases aimed with
  | fault found => exact .inr (Aims.fault found).eq
  | unresolved found proper => exact .inr (Aims.unresolved found proper).eq
  | filtered found _ => exact .inl ⟨_, rfl⟩
  | cycle found _ member => exact .inr (Aims.cycle found (selects _) member).eq
  | locked found _ fresh denied =>
      exact .inr (Aims.locked found (selects _) fresh denied).eq
  | follow found _ fresh readable =>
      exact .inr (Aims.follow found (selects _) fresh readable).eq

end Aims

section Visits

variable {tree : FileTree} {settings : Settings} {root : Path}
  {α : Type} {select : Event → Option α}

/-- What a selection of events that passes over filtered targets finds in the events
of an entry, it finds in those that follow every target, if this holds of the visit
that the entry can start. -/
theorem filterMap_entryEvents_sublist
    (passesFiltered : ∀ target, select (.filtered target) = none)
    {chain : List Location}
    (nested : ∀ text target content,
      aim tree (settings.including false) root chain text = .follow target content →
        ((visit tree (settings.including false) root (target :: chain) target
          content).filterMap select).Sublist
            ((visit tree (settings.including true) root (target :: chain) target
              content).filterMap select))
    (file : Location)
    (entry : Stanza.Entry) :
    ((entryEvents tree (settings.including false) root chain file entry).filterMap
      select).Sublist
        ((entryEvents tree (settings.including true) root chain file entry).filterMap
          select) := by
  cases entry with
  | effect change => exact List.Sublist.refl _
  | source text =>
      rw [entryEvents, entryEvents, sourceEvents, sourceEvents]
      rcases aim_including tree settings root chain text with ⟨target, filtered⟩ | same
      · rw [filtered]
        simp [passesFiltered]
      · rw [same]
        cases aimed : aim tree (settings.including false) root chain text with
        | follow target content =>
            have inside := nested text target content aimed
            simp only [List.cons_append, List.filterMap_cons, List.filterMap_append]
            cases select (.entering target file) with
            | none => exact inside.append (List.Sublist.refl _)
            | some found => exact (inside.append (List.Sublist.refl _)).cons_cons found
        | filtered _ | skipped _ | locked _ _ | fault _ => exact List.Sublist.refl _

/-- What a selection of events that passes over filtered targets finds in a visit, it
finds in the visit that follows every target. -/
theorem filterMap_visit_sublist
    (passesFiltered : ∀ target, select (.filtered target) = none)
    (chain : List Location) (file : Location) (bytes : List UInt8) :
    ((visit tree (settings.including false) root chain file bytes).filterMap
      select).Sublist
        ((visit tree (settings.including true) root chain file bytes).filterMap
          select) := by
  induction chain using @chain_induction tree (settings.including false) root
    generalizing file bytes with
  | step chain inductionHypothesis =>
      have nested := fun text target content followed =>
        inductionHypothesis text target content followed target content
      have entries := List.Sublist.flatMap_right
        (Stanza.entries settings.skipHelp (linesOf bytes))
        fun entry _ => filterMap_entryEvents_sublist passesFiltered nested file entry
      rw [visit_eq_entries, visit_eq_entries, List.filterMap_cons, List.filterMap_cons,
        List.filterMap_flatMap, List.filterMap_flatMap]
      cases select (.opened file) with
      | none => exact entries
      | some found => exact entries.cons_cons found

end Visits

/-- Some changes of a list, in their order, lead to a table within that of all of
them. -/
theorem tableOf_within
    {fewer more : List (Location × Stanza.Effect)}
    (sublist : fewer.Sublist more) :
    (tableOf fewer).Within (tableOf more) := by
  have within : ∀ small large : Table, small.Within large → large.Counted →
      (fewer.foldl (fun table change =>
        change.2.apply (some change.1.path.toString) table) small).Within
      (more.foldl (fun table change =>
        change.2.apply (some change.1.path.toString) table) large) := by
    induction sublist with
    | slnil => exact fun _ _ within _ => within
    | cons extra _ inductionHypothesis =>
        intro small large within counted
        exact inductionHypothesis small _ (within.trans (Table.Within.self_apply _ _ _))
          (counted.apply _ _)
    | cons_cons shared _ inductionHypothesis =>
        intro small large within counted
        exact inductionHypothesis _ _ (within.apply counted _ _) (counted.apply _ _)
  exact within Table.empty Table.empty (Table.Within.empty _) Table.counted_empty

/-- A resolution that follows every target does what the same resolution does that keeps
to the architecture part of the tree, and only adds to it.  In particular the smaller
one returns if the larger one does. -/
theorem run_within_including
    {tree : FileTree} {settings : Settings} {entry : Path} {large : Result}
    (returned : (run tree (settings.including true) entry).1 = .ok large) :
    ∃ small,
      (run tree (settings.including false) entry).1 = .ok small ∧
        small.Within large := by
  obtain ⟨file, bytes, opened, faultless, rfl⟩ := run_eq_ok_iff.mp returned
  have sublist {α : Type} {select : Event → Option α} :=
    fun passesFiltered => @filterMap_visit_sublist tree settings
      (chooseRoot tree settings entry).1 α select passesFiltered [file] file bytes
  refine ⟨_, run_eq_ok_iff.mpr ⟨file, bytes, opened, ?_, rfl⟩, ?_⟩
  · have noFault := List.filterMap_eq_nil_iff.mpr faultless
    have faults : (List.filterMap Event.fault? _).Sublist _ := sublist fun _ => rfl
    exact List.filterMap_eq_nil_iff.mp (List.sublist_nil.mp (noFault ▸ faults))
  · refine ⟨sublist fun _ => rfl, sublist fun _ => rfl, ?_, ?_⟩
    · intro directory member
      have directories : (List.filterMap Event.sourceDirectory? _).Sublist _ :=
        sublist fun _ => rfl
      exact List.mem_eraseDups.mpr (directories.subset (List.mem_eraseDups.mp member))
    · rw [Result.ofEvents, Result.ofEvents, tableAfter_eq_tableOf,
        tableAfter_eq_tableOf]
      exact tableOf_within (sublist fun _ => rfl)

/-- Without the inner file, which lies outside the architecture part, the outer one says
no more about its component than with it. -/
theorem run_within_including_nested :
    ∃ small record,
      (run nestedTree (nestedSettings.including false) ⟨.working, ["out"]⟩).1 =
        .ok small ∧
        small.Within (Result.ofEvents nestedEvents) ∧
        small.files.Sublist [⟨.root, ["k", "out"]⟩, ⟨.root, ["k", "in"]⟩] ∧
        (Result.ofEvents nestedEvents).table.find? "A" = some record ∧
        record.occurrences = 2 := by
  obtain ⟨small, returned, within⟩ :=
    @run_within_including nestedTree nestedSettings ⟨.working, ["out"]⟩ _ run_nested
  exact ⟨small, _, returned, within, within.files, find?_nested, rfl⟩

end Resolution
end KernelInventory
