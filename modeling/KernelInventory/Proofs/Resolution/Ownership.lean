import KernelInventory.Proofs.Component.Table
import KernelInventory.Proofs.Resolution.Processing
import KernelInventory.Proofs.Stanza.Attribute

/-!
# Who owns a line

The table that handled lines lead to has one record for each component that a
header names, in the order of first sighting.  The attributes of a record are read
off the lines that belong to its component; the count and the files are those of
the headers that name it.
-/

namespace KernelInventory
namespace Resolution

/-- The components that the headers among handled lines name, in order. -/
def namesIn (log : List Handled) : List String :=
  log.filterMap Handled.header?

/-- The files whose headers name a component, once for each header, in order. -/
def filesNaming (name : String) (log : List Handled) : List String :=
  (log.filter fun handled => handled.header? = some name).map fun handled =>
    handled.file.path.toString

/-- The text of the handled lines that belong to a component, in order. -/
def ownedBy (name : String) (log : List Handled) : List (List Char) :=
  (withPast [] log).filterMap fun (before, handled) =>
    if handled.owner? before = some name then some handled.line else none

/-- What handled lines say about a component. -/
def recordOf (log : List Handled) (name : String) : Record :=
  { Stanza.attributesOf name (ownedBy name log) with
    occurrences := (namesIn log).count name
    files := (filesNaming name log).eraseDups }

/-! ## One handled line more -/

theorem namesIn_snoc (log : List Handled) (handled : Handled) :
    namesIn (log ++ [handled]) = namesIn log ++ handled.header?.toList := by
  rw [namesIn, List.filterMap_append]
  cases named : handled.header? <;> simp [namesIn, named]

theorem filesNaming_snoc (name : String) (log : List Handled) (handled : Handled) :
    filesNaming name (log ++ [handled]) =
      filesNaming name log ++
        if handled.header? = some name then [handled.file.path.toString] else [] := by
  rw [filesNaming, List.filter_append, List.map_append]
  by_cases named : handled.header? = some name <;> simp [filesNaming, named]

theorem ownedBy_snoc (name : String) (log : List Handled) (handled : Handled) :
    ownedBy name (log ++ [handled]) =
      ownedBy name log ++ if handled.owner? log = some name then [handled.line]
      else [] := by
  rw [ownedBy, withPast_append, List.filterMap_append, List.nil_append]
  by_cases owned : handled.owner? log = some name <;> simp [ownedBy, owned]

/-- A component without a header owns nothing. -/
theorem ownedBy_of_not_mem
    {name : String} {log : List Handled}
    (absent : name ∉ namesIn log) :
    ownedBy name log = [] := by
  induction log using List.reverseRecOn with
  | nil => rfl
  | append_singleton log handled inductionHypothesis =>
      rw [namesIn_snoc, List.mem_append, not_or] at absent
      rw [ownedBy_snoc, inductionHypothesis absent.1, List.nil_append, if_neg]
      intro owned
      obtain ⟨header, member, named⟩ := exists_header_of_ownerIn owned
      exact absent.1 (List.mem_filterMap.mpr ⟨header, member, named⟩)

/-- Nothing is said about a component that no header names. -/
theorem recordOf_of_not_mem
    {log : List Handled} {name : String}
    (absent : name ∉ namesIn log) :
    recordOf log name = { name := name } := by
  have noFiles : filesNaming name log = [] := by
    rw [filesNaming, List.map_eq_nil_iff, List.filter_eq_nil_iff]
    intro handled member
    rw [decide_eq_true_iff]
    exact fun named => absent (List.mem_filterMap.mpr ⟨handled, member, named⟩)
  rw [recordOf, ownedBy_of_not_mem absent, noFiles, List.count_eq_zero.mpr absent]
  rfl

/-- A header is one more occurrence of its component, in its file, and gives no
attribute. -/
theorem recordOf_snoc_header
    {log : List Handled} {handled : Handled} {name : String}
    (named : handled.header? = some name)
    (noAttribute : Stanza.Attribute.ofLine? handled.line = none)
    (other : String) :
    recordOf (log ++ [handled]) other =
      if other = name then (recordOf log other).addOccurrence
        (some handled.file.path.toString)
      else recordOf log other := by
  have sameAttributes : Stanza.attributesOf other (ownedBy other (log ++ [handled])) =
      Stanza.attributesOf other (ownedBy other log) := by
    rw [ownedBy_snoc]
    split
    · rw [Stanza.attributesOf_snoc, noAttribute, Option.elim_none]
    · rw [List.append_nil]
  rw [recordOf, sameAttributes, namesIn_snoc, filesNaming_snoc, named,
    Option.toList_some, List.count_append]
  by_cases same : other = name
  · subst same
    rw [if_pos rfl, if_pos rfl, eraseDups_snoc, recordOf, Record.addOccurrence,
      Option.elim_some, Record.addFile]
    by_cases known : handled.file.path.toString ∈ filesNaming other log <;>
      simp [known]
  · have different : ¬ some name = some other :=
      fun equal => same (Option.some.inj equal).symm
    rw [if_neg same, if_neg different, List.append_nil, recordOf]
    simp [Ne.symm same]

/-- A line that is no header changes nothing but attributes. -/
theorem recordOf_snoc_of_no_header
    {log : List Handled} {handled : Handled}
    (noHeader : handled.header? = none)
    (other : String) :
    recordOf (log ++ [handled]) other =
      { Stanza.attributesOf other (ownedBy other (log ++ [handled])) with
        occurrences := (namesIn log).count other
        files := (filesNaming other log).eraseDups } := by
  have sameNames : namesIn (log ++ [handled]) = namesIn log := by
    rw [namesIn_snoc, noHeader, Option.toList_none, List.append_nil]
  have sameFiles : filesNaming other (log ++ [handled]) = filesNaming other log := by
    rw [filesNaming_snoc, noHeader]
    simp
  rw [recordOf, sameNames, sameFiles]

/-- An attribute concerns the record of its owner. -/
theorem recordOf_snoc_assign
    {log : List Handled} {handled : Handled} {name : String}
    {setting : Stanza.Attribute}
    (noHeader : handled.header? = none)
    (owner : handled.owner? log = some name)
    (given : Stanza.Attribute.ofLine? handled.line = some setting)
    (other : String) :
    recordOf (log ++ [handled]) other =
      if other = name then setting.apply (recordOf log other)
      else recordOf log other := by
  rw [recordOf_snoc_of_no_header noHeader, ownedBy_snoc, owner]
  by_cases same : other = name
  · subst same
    rw [if_pos rfl, if_pos rfl, Stanza.attributesOf_snoc, given,
      Option.elim_some, recordOf]
    cases setting <;> rfl
  · have different : ¬ some name = some other :=
      fun equal => same (Option.some.inj equal).symm
    rw [if_neg same, if_neg different, List.append_nil, recordOf]

/-- A line that is neither a header nor an attribute of an owner says nothing. -/
theorem recordOf_snoc_silent
    {log : List Handled} {handled : Handled}
    (noHeader : handled.header? = none)
    (silent : handled.owner? log = none ∨ Stanza.Attribute.ofLine? handled.line = none)
    (other : String) :
    recordOf (log ++ [handled]) other = recordOf log other := by
  rw [recordOf_snoc_of_no_header noHeader, ownedBy_snoc, recordOf]
  rcases silent with noOwner | noAttribute
  · have different : ¬ none = some other := (Option.some_ne_none other).symm
    rw [noOwner, if_neg different, List.append_nil]
  · split
    · rw [Stanza.attributesOf_snoc, noAttribute, Option.elim_none]
    · rw [List.append_nil]

/-! ## The table -/

/-- The table that says what handled lines say. -/
def tableFor (log : List Handled) : Table :=
  Table.ofNames (namesIn log).eraseDups (recordOf log)

theorem name_recordOf (log : List Handled) (name : String) :
    (recordOf log name).name = name := rfl

/-- One handled line more changes the table as the line says. -/
theorem tableFor_snoc (log : List Handled) (handled : Handled) :
    tableFor (log ++ [handled]) =
      (Stanza.effectOf (handled.owner? log) handled.afterBlank handled.line).elim
        (tableFor log)
        (Stanza.Effect.apply (some handled.file.path.toString) (tableFor log)) := by
  rcases Stanza.effectOf_cases (handled.owner? log) handled.afterBlank handled.line with
    ⟨name, named, noAttribute, effect⟩ |
      ⟨name, setting, noHeader, owner, given, effect⟩ |
    ⟨noHeader, silent, nothing⟩
  · have header : handled.header? = some name := named
    rw [effect, Option.elim_some, Stanza.Effect.apply, tableFor, tableFor,
      Table.ensure_ofNames (name_recordOf log) name,
      Table.modify_ofNames (name_recordOf log), namesIn_snoc, header,
      Option.toList_some, eraseDups_snoc]
    · simp only [List.mem_eraseDups]
      apply Table.ofNames_congr
      intro other _
      exact recordOf_snoc_header header noAttribute other
    · intro absent
      exact recordOf_of_not_mem fun member => absent (List.mem_eraseDups.mpr member)
  · rw [effect, Option.elim_some, Stanza.Effect.apply, tableFor, tableFor,
      Table.modify_ofNames (name_recordOf log), namesIn_snoc]
    have header : handled.header? = none := noHeader
    rw [header, Option.toList_none, List.append_nil]
    apply Table.ofNames_congr
    intro other _
    exact recordOf_snoc_assign header owner given other
  · have header : handled.header? = none := noHeader
    rw [nothing, tableFor, tableFor, namesIn_snoc, header, Option.toList_none,
      List.append_nil]
    apply Table.ofNames_congr
    intro other _
    exact recordOf_snoc_silent header silent other

/-- Handled lines lead to the table that says what they say. -/
theorem tableOf_changes (log : List Handled) :
    tableOf (changes [] log) = tableFor log := by
  induction log using List.reverseRecOn with
  | nil => rfl
  | append_singleton log handled inductionHypothesis =>
      rw [changes_snoc, tableOf, List.foldl_append]
      rw [tableOf] at inductionHypothesis
      rw [inductionHypothesis, tableFor_snoc, Handled.change?]
      cases Stanza.effectOf (handled.owner? log) handled.afterBlank handled.line <;> rfl

/-- The table of a run says what the run's handled lines say. -/
theorem table_eq_tableFor
    {tree : FileTree} {settings : Settings} {entry : Path} {result : Result}
    (returned : (run tree settings entry).1 = .ok result) :
    result.table = tableFor (processed tree settings entry) := by
  rw [table_of_run returned, tableOf_changes]

/-- A component of such a table is named by a header, and its record is read off the
lines. -/
theorem find?_tableFor
    {log : List Handled} {name : String} {record : Record}
    (found : (tableFor log).find? name = some record) :
    name ∈ namesIn log ∧ record = recordOf log name := by
  rw [tableFor, Table.find?_ofNames (name_recordOf log)] at found
  split at found
  next member =>
    exact ⟨List.mem_eraseDups.mp member, (Option.some.inj found).symm⟩
  · cases found

/-- The attributes of every component after a run are those that the lines it owns give,
in processing order: the dependencies and the selections are what its `depends on` and
`select` lines say, a boolean default takes the place of the defaults in front of it,
and the component is boolean exactly if a line of it says so. -/
theorem attributes_of_owned_lines
    {tree : FileTree} {settings : Settings} {entry : Path} {result : Result}
    (returned : (run tree settings entry).1 = .ok result)
    {name : String} {record : Record}
    (found : result.table.find? name = some record) :
    record.depends =
        Stanza.fields "depends on" (ownedBy name (processed tree settings entry)) ∧
      record.selects = Stanza.fields "select"
        (ownedBy name (processed tree settings entry)) ∧
      record.defaults = Stanza.defaultsOf
        (ownedBy name (processed tree settings entry)) ∧
      record.kind = Stanza.kindOf (ownedBy name (processed tree settings entry)) := by
  rw [table_eq_tableFor returned] at found
  obtain ⟨-, rfl⟩ := find?_tableFor found
  exact ⟨rfl, rfl, rfl, rfl⟩

/-- The component that the outer file opens keeps its later lines, although the inner
file opens another component in between. -/
theorem attributes_of_owned_lines_nested :
    ∃ result record,
      (run nestedTree nestedSettings ⟨.working, ["out"]⟩).1 = .ok result ∧
        result.table.find? "A" = some record ∧
        record.defaults = ["y", "z"] ∧
        record.defaults = Stanza.defaultsOf
          (ownedBy "A" (processed nestedTree nestedSettings ⟨.working, ["out"]⟩)) := by
  obtain ⟨-, -, defaults, -⟩ := attributes_of_owned_lines run_nested find?_nested
  exact ⟨_, _, run_nested, find?_nested, rfl, defaults⟩

end Resolution
end KernelInventory
