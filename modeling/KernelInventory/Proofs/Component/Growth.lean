import KernelInventory.Proofs.Component.Table
import KernelInventory.Stanza.Basic

/-!
# Tables that say less than others

One table lies within another one if every component of it has a record there that says
at least as much.  Every effect of a stanza keeps one table within another one and only
adds to a table, so that some of the effects of a list, in their order, lead to a table
within that of all of them.

The defaults are left out: a boolean default takes the place of those in front of it.
-/

namespace KernelInventory

/-! ## Records -/

namespace Record

/-- A record says no more than another one. -/
structure Within (small large : Record) : Prop where
  occurrences : small.occurrences ≤ large.occurrences
  depends : small.depends.Sublist large.depends
  selects : small.selects.Sublist large.selects
  files : small.files ⊆ large.files
  boolean : small.kind = .boolean → large.kind = .boolean

theorem mem_files_addFile {record : Record} {file other : String} :
    other ∈ (record.addFile file).files ↔ other ∈ record.files ∨ file = other := by
  rw [addFile]
  split
  next known =>
    constructor
    · exact Or.inl
    · rintro (old | rfl)
      · exact old
      · exact known
  · rw [List.mem_append, List.mem_singleton, eq_comm]

theorem mem_files_addOccurrence {record : Record} {file : Option String}
    {other : String} :
    other ∈ (record.addOccurrence file).files ↔
      other ∈ record.files ∨ file = some other := by
  cases file with
  | none => simp [addOccurrence]
  | some path => simp [addOccurrence, mem_files_addFile]

/-- One more declaration changes the count and the files only. -/
theorem addOccurrence_eq (record : Record) (file : Option String) :
    record.addOccurrence file =
      { record with
        occurrences := record.occurrences + 1
        files := (record.addOccurrence file).files } := by
  cases file with
  | none => rfl
  | some path =>
      rw [addOccurrence, Option.elim_some, addFile]
      split <;> rfl

@[simp] theorem name_apply (setting : Stanza.Attribute) (record : Record) :
    (setting.apply record).name = record.name := by
  cases setting <;> rfl

namespace Within

variable {small large : Record}

theorem refl (record : Record) : record.Within record :=
  ⟨Int.le_refl _, List.Sublist.refl _, List.Sublist.refl _, List.Subset.refl _, id⟩

theorem trans {middle : Record} (first : small.Within middle)
    (second : middle.Within large) :
    small.Within large :=
  ⟨Int.le_trans first.occurrences second.occurrences,
    first.depends.trans second.depends, first.selects.trans second.selects,
    List.Subset.trans first.files second.files, second.boolean ∘ first.boolean⟩

/-- A record that has just been made says nothing. -/
theorem fresh (name : String) (counted : 0 ≤ large.occurrences) :
    Record.Within { name := name } large :=
  ⟨counted, List.nil_sublist _, List.nil_sublist _, List.nil_subset _, by simp⟩

theorem addOccurrence (within : small.Within large) (file : Option String) :
    (small.addOccurrence file).Within (large.addOccurrence file) := by
  have files : (small.addOccurrence file).files ⊆ (large.addOccurrence file).files := by
    intro path member
    rw [mem_files_addOccurrence] at member ⊢
    exact member.imp_left fun old => within.files old
  rw [addOccurrence_eq small, addOccurrence_eq large]
  exact ⟨Int.add_le_add_right within.occurrences 1, within.depends,
    within.selects, files, within.boolean⟩

theorem self_addOccurrence (record : Record) (file : Option String) :
    record.Within (record.addOccurrence file) := by
  have files : record.files ⊆ (record.addOccurrence file).files :=
    fun _ member => mem_files_addOccurrence.mpr (Or.inl member)
  rw [addOccurrence_eq]
  exact ⟨Int.le_add_one (Int.le_refl _), List.Sublist.refl _, List.Sublist.refl _,
    files, id⟩

theorem apply (within : small.Within large) (setting : Stanza.Attribute) :
    (setting.apply small).Within (setting.apply large) := by
  obtain ⟨occurrences, depends, selects, files, boolean⟩ := within
  cases setting with
  | dependsOn expression =>
      exact ⟨occurrences, depends.append (List.Sublist.refl _), selects, files, boolean⟩
  | boolean => exact ⟨occurrences, depends, selects, files, fun _ => rfl⟩
  | default value => exact ⟨occurrences, depends, selects, files, boolean⟩
  | booleanDefault value => exact ⟨occurrences, depends, selects, files, fun _ => rfl⟩
  | select expression =>
      exact ⟨occurrences, depends, selects.append (List.Sublist.refl _), files, boolean⟩

theorem self_apply (record : Record) (setting : Stanza.Attribute) :
    record.Within (setting.apply record) := by
  obtain ⟨occurrences, depends, selects, files, boolean⟩ := refl record
  cases setting with
  | dependsOn expression =>
      exact ⟨occurrences, List.sublist_append_left _ _, selects, files, boolean⟩
  | boolean => exact ⟨occurrences, depends, selects, files, fun _ => rfl⟩
  | default value => exact ⟨occurrences, depends, selects, files, boolean⟩
  | booleanDefault value => exact ⟨occurrences, depends, selects, files, fun _ => rfl⟩
  | select expression =>
      exact ⟨occurrences, depends, List.sublist_append_left _ _, files, boolean⟩

end Within
end Record

/-! ## Tables -/

namespace Table

/-- A table says no more than another one: every component of it has a record there that
says at least as much. -/
def Within (small large : Table) : Prop :=
  ∀ name record, small.find? name = some record →
    ∃ larger, large.find? name = some larger ∧ record.Within larger

/-- No component of the table is counted less than zero times. -/
def Counted (table : Table) : Prop :=
  ∀ name record, table.find? name = some record → 0 ≤ record.occurrences

theorem name_of_find? {table : Table} {name : String} {record : Record}
    (found : table.find? name = some record) :
    record.name = name := by
  simpa using List.find?_some found

/-- A change that keeps names is seen by lookups of its component only. -/
theorem find?_modify
    {change : Record → Record}
    (keeps : ∀ record, (change record).name = record.name)
    (table : Table)
    (name other : String) :
    (table.modify name change).find? other =
      (table.find? other).map fun record => if other = name then change record
      else record := by
  have sameNames : ∀ record : Record,
      (if record.name = name then change record else record).name = record.name := by
    intro record
    split
    · exact keeps record
    · rfl
  rw [find?, modify, List.find?_map]
  simp only [Function.comp_def, sameNames]
  apply Option.map_congr
  intro record found
  rw [name_of_find? found]

theorem find?_ensure (table : Table) (name other : String) :
    (table.ensure name).find? other =
      if other = name then some ((table.find? name).getD { name := name })
      else table.find? other := by
  rw [ensure, contains]
  cases found : table.find? name with
  | some record =>
      by_cases same : other = name
      · simp [same, found]
      · simp [same]
  | none =>
      have appended : (⟨table.records ++ [{ name := name }]⟩ : Table).find? other =
          (table.find? other).or (if name = other then some { name := name }
          else none) := by
        by_cases same : name = other <;> simp [find?, List.find?_append, same]
      rw [Option.isSome_none, if_neg Bool.false_ne_true, appended]
      by_cases same : other = name
      · subst same
        simp [found]
      · simp [same, Ne.symm same]

/-- A change that keeps names changes no name of a table. -/
theorem names_modify
    {change : Record → Record}
    (keeps : ∀ record, (change record).name = record.name)
    (table : Table)
    (name : String) :
    (table.modify name change).names = table.names := by
  rw [modify, names, names, List.map_map]
  refine List.map_congr_left fun record _ => ?_
  dsimp only [Function.comp_apply]
  split
  · exact keeps record
  · rfl

theorem names_ensure (table : Table) (name : String) :
    (table.ensure name).names =
      if name ∈ table.names then table.names else table.names ++ [name] := by
  simp only [ensure, contains_iff_mem_names]
  split
  · rfl
  · simp [names]

/-- A header is a declaration of its component, which is made for it if need be. -/
theorem find?_apply_header (file : Option String) (table : Table)
    (name other : String) :
    ((Stanza.Effect.header name).apply file table).find? other =
      if other = name then
        some (((table.find? name).getD { name := name }).addOccurrence file)
      else table.find? other := by
  rw [Stanza.Effect.apply, find?_modify (fun _ => Record.name_addOccurrence _ _),
    find?_ensure]
  by_cases same : other = name <;> simp [same]

theorem find?_apply_assign
    (file : Option String) (table : Table) (owner other : String)
    (setting : Stanza.Attribute) :
    ((Stanza.Effect.assign owner setting).apply file table).find? other =
      (table.find? other).map fun record =>
        if other = owner then setting.apply record else record :=
  find?_modify (Record.name_apply setting) table owner other

theorem counted_empty : empty.Counted := by
  intro name record found
  cases found

/-- Counts only ever grow. -/
theorem Counted.apply
    {table : Table}
    (counted : table.Counted)
    (file : Option String)
    (effect : Stanza.Effect) :
    (effect.apply file table).Counted := by
  intro other record found
  cases effect with
  | namelessHeader line => exact counted other record found
  | header name =>
      rw [find?_apply_header] at found
      split at found
      · obtain rfl := Option.some.inj found
        rw [Record.addOccurrence_eq]
        cases earlier : table.find? name with
        | none => simp
        | some record => exact Int.le_add_one (counted name record earlier)
      · exact counted other record found
  | assign owner setting =>
      rw [find?_apply_assign] at found
      obtain ⟨earlier, foundEarlier, rfl⟩ := Option.map_eq_some_iff.mp found
      have least := counted other earlier foundEarlier
      split
      · exact Int.le_trans least (Record.Within.self_apply earlier setting).occurrences
      · exact least

namespace Within

variable {small large : Table}

theorem empty (table : Table) : Table.empty.Within table := by
  intro name record found
  cases found

theorem trans {middle : Table} (first : small.Within middle)
    (second : middle.Within large) :
    small.Within large := by
  intro name record found
  obtain ⟨between, foundBetween, below⟩ := first name record found
  obtain ⟨larger, foundLarger, above⟩ := second name between foundBetween
  exact ⟨larger, foundLarger, below.trans above⟩

/-- The same effect keeps a table within another one. -/
theorem apply
    (within : small.Within large)
    (counted : large.Counted)
    (file : Option String)
    (effect : Stanza.Effect) :
    (effect.apply file small).Within (effect.apply file large) := by
  intro other record found
  cases effect with
  | namelessHeader line => exact within other record found
  | header name =>
      rw [find?_apply_header] at found ⊢
      split at found
      next same =>
        subst same
        obtain rfl := Option.some.inj found
        rw [if_pos rfl]
        refine ⟨_, rfl, Record.Within.addOccurrence ?_ file⟩
        cases earlier : small.find? other with
        | some record =>
            obtain ⟨larger, foundLarger, below⟩ := within other record earlier
            rw [foundLarger]
            exact below
        | none =>
            cases there : large.find? other with
            | none => exact Record.Within.refl _
            | some larger =>
                exact Record.Within.fresh other (counted other larger there)
      next different =>
        rw [if_neg different]
        exact within other record found
  | assign owner setting =>
      rw [find?_apply_assign] at found ⊢
      obtain ⟨earlier, foundEarlier, rfl⟩ := Option.map_eq_some_iff.mp found
      obtain ⟨larger, foundLarger, below⟩ := within other earlier foundEarlier
      rw [foundLarger]
      refine ⟨_, rfl, ?_⟩
      split
      · exact below.apply setting
      · exact below

/-- An effect only adds to a table. -/
theorem self_apply (table : Table) (file : Option String) (effect : Stanza.Effect) :
    table.Within (effect.apply file table) := by
  intro other record found
  cases effect with
  | namelessHeader line => exact ⟨record, found, Record.Within.refl record⟩
  | header name =>
      rw [find?_apply_header]
      split
      next same =>
        subst same
        rw [found]
        exact ⟨_, rfl, Record.Within.self_addOccurrence record file⟩
      · exact ⟨record, found, Record.Within.refl record⟩
  | assign owner setting =>
      rw [find?_apply_assign, found]
      refine ⟨_, rfl, ?_⟩
      split
      · exact Record.Within.self_apply record setting
      · exact Record.Within.refl record

end Within
end Table
end KernelInventory
