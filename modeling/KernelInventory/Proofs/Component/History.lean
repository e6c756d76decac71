import KernelInventory.Proofs.Correlation.Opening
import KernelInventory.Proofs.Stanza.Header

/-!
# The component table in use

Several readers may fill one table in turn, each with a state of its own that outlives
what the others do; components may be asked for in between, and code may be attached to
them.  Whatever is done, the table answers as a map whose names stand in the order in
which they were added: no operation takes a name away or moves one, and each adds one
at most, at the end.  So the component that a reader has come to stays in the table,
and no attribute is lost.
-/

namespace KernelInventory

/-! ## Tables as maps -/

namespace Table

/-- A table answers as a map: it names each of its components once, and has the record
of each of them and of no other. -/
structure IsMap (table : Table) : Prop where
  nodup : table.names.Nodup
  present : ∀ name ∈ table.names, ∃ record, table.find? name = some record ∧
    record.name = name
  absent : ∀ name, name ∉ table.names → table.find? name = none
  own : ∀ record ∈ table.records, table.find? record.name = some record
  contains : ∀ name, table.contains name = true ↔ name ∈ table.names
  size : table.size = table.names.length

/-- A table answers as a map as soon as no name is repeated. -/
theorem IsMap.of_nodup {table : Table} (nodup : table.names.Nodup) : table.IsMap where
  nodup := nodup
  present := by
    intro name member
    rw [← contains_iff_mem_names, Table.contains, Option.isSome_iff_exists] at member
    obtain ⟨record, found⟩ := member
    exact ⟨record, found, name_of_find? found⟩
  absent := by
    intro name missing
    rw [← contains_iff_mem_names, Table.contains] at missing
    simpa using missing
  own := by
    intro record member
    obtain ⟨found, here⟩ : ∃ found, table.find? record.name = some found := by
      rw [← Option.isSome_iff_exists]
      exact (contains_iff_mem_names table record.name).mpr (List.mem_map_of_mem member)
    rw [here]
    exact congrArg some
      (List.inj_on_of_nodup_map nodup (List.mem_of_find?_eq_some here) member
        (name_of_find? here))
  contains := contains_iff_mem_names table
  size := (length_names table).symm

/-- What comes of asking a table for a component: it is made exactly if it was not
there, and then stands last, and all other components stay as they were. -/
structure Requested (table : Table) (name : String) (outcome : Table × Record × Bool) :
    Prop where
  created : outcome.2.2 = true ↔ name ∉ table.names
  names : outcome.1.names = if name ∈ table.names then table.names
  else table.names ++ [name]
  found : outcome.1.find? name = some outcome.2.1
  named : outcome.2.1.name = name
  others : ∀ other, other ≠ name → outcome.1.find? other = table.find? other

theorem requested_getOrCreate (table : Table) (name : String) :
    table.Requested name (table.getOrCreate name) := by
  have listed := contains_iff_mem_names table name
  unfold getOrCreate
  cases found : table.find? name with
  | some record =>
      have present : name ∈ table.names :=
        listed.mp (by rw [Table.contains, found]; rfl)
      exact ⟨by simp [present], by simp [present], found, name_of_find? found,
        fun _ _ => rfl⟩
  | none =>
      have missing : name ∉ table.names := fun present => by
        have contained := listed.mpr present
        rw [Table.contains, found] at contained
        cases contained
      refine ⟨by simp [missing], names_ensure table name, ?_, rfl,
        fun other different => ?_⟩
      · rw [find?_ensure, if_pos rfl, found]
        rfl
      · rw [find?_ensure, if_neg different]

end Table

/-- Attaching code leaves the names of a table as they are, even if the correlation
fails. -/
theorem Correlation.names_run
    (tree : FileTree) (exclusion : Option Exclusion) (base : Option Path)
    (table : Table)
    (directories : List Path) :
    (run tree exclusion base table directories).table.names = table.names := by
  unfold run
  dsimp only
  split <;> exact names_foldl_attach _ table

/-! ## A table that is shared -/

/-- A table and the states of the readers that fill it, which are told apart by
numbers. -/
structure SharedTable where
  table : Table := .empty
  states : Nat → Stanza.State := fun _ => {}

namespace SharedTable

/-- What is done with a shared table. -/
inductive Operation
  /-- A reader takes a line. -/
  | feed (number : Nat) (feed : Stanza.Feed)
  /-- A component is asked for, and made unless it is there. -/
  | request (name : String)
  /-- Code is attached to the components. -/
  | correlate (tree : FileTree) (exclusion : Option Exclusion) (base : Option Path)
    (directories : List Path)

/-- A reader with the table as it stands. -/
def reader (shared : SharedTable) (number : Nat) : Stanza.Reader :=
  ⟨shared.states number, shared.table⟩

/-- Carry out an operation; a reader that takes something changes its own state only. -/
def perform (shared : SharedTable) : Operation → SharedTable
  | .feed number feed =>
    let next := (shared.reader number).take feed
    ⟨next.table, Function.update shared.states number next.state⟩
  | .request name => { shared with table := (shared.table.getOrCreate name).1 }
  | .correlate tree exclusion base directories =>
    { shared with table :=
      (Correlation.run tree exclusion base shared.table directories).table }

/-- An empty table with fresh readers, after some operations. -/
def after (operations : List Operation) : SharedTable :=
  operations.foldl perform {}

theorem after_snoc (operations : List Operation) (operation : Operation) :
    after (operations ++ [operation]) = (after operations).perform operation := by
  rw [after, List.foldl_append, List.foldl_cons, List.foldl_nil, after]

/-- A reader that takes something opens a component, or nothing. -/
theorem opens_or_not (reader : Stanza.Reader) (feed : Stanza.Feed) :
    (∃ name, reader.Opens (reader.take feed) name) ∨
      reader.OpensNothing (reader.take feed) := by
  cases feed with
  | blank => exact .inr ⟨rfl, fun _ => rfl, rfl⟩
  | line file text =>
      cases named : Stanza.header? reader.state.afterBlank text with
      | some name => exact .inl ⟨name, Stanza.Reader.opens_of_header? named file⟩
      | none => exact .inr (Stanza.Reader.opensNothing_of_header? named file)

/-- An operation leaves the names of the table as they are, or adds a new one at the
end. -/
theorem names_perform (shared : SharedTable) (operation : Operation) :
    (shared.perform operation).table.names = shared.table.names ∨
      ∃ name, name ∉ shared.table.names ∧
        (shared.perform operation).table.names = shared.table.names ++ [name] := by
  have ensured : ∀ name (names : List String),
      names = (if name ∈ shared.table.names then shared.table.names
        else shared.table.names ++ [name]) →
      names = shared.table.names ∨
        ∃ name, name ∉ shared.table.names ∧ names = shared.table.names ++ [name] := by
    rintro name _ rfl
    split
    · exact .inl rfl
    next absent => exact .inr ⟨name, absent, rfl⟩
  cases operation with
  | feed number feed =>
      rcases opens_or_not (shared.reader number) feed with ⟨name, opens⟩ | nothing
      · exact ensured name _ opens.names
      · exact .inl nothing.names
  | request name => exact ensured name _ (shared.table.requested_getOrCreate name).names
  | correlate tree exclusion base directories =>
      exact .inl (Correlation.names_run tree exclusion base shared.table directories)

theorem names_prefix_perform (shared : SharedTable) (operation : Operation) :
    shared.table.names <+: (shared.perform operation).table.names := by
  rcases shared.names_perform operation with same | ⟨name, -, added⟩
  · rw [same]
  · rw [added]
    exact List.prefix_append _ _

/-- No name is repeated, and every reader that has come to a component
finds it in the table. -/
structure Sound (shared : SharedTable) : Prop where
  nodup : shared.table.names.Nodup
  current : ∀ number name, (shared.states number).current = some name →
    name ∈ shared.table.names

theorem Sound.perform {shared : SharedTable} (sound : shared.Sound)
    (operation : Operation) :
    (shared.perform operation).Sound where
  nodup := by
    rcases shared.names_perform operation with same | ⟨name, missing, added⟩
    · rw [same]
      exact sound.nodup
    · rw [added, List.nodup_append_comm]
      exact List.nodup_cons.mpr ⟨missing, sound.nodup⟩
  current := by
    intro number name current
    have kept := (shared.names_prefix_perform operation).subset
    cases operation with
    | request | correlate => exact kept (sound.current number name current)
    | feed other feed =>
        by_cases same : number = other
        · subst same
          have here : ((shared.reader number).take feed).state.current = some name := by
            simpa [SharedTable.perform] using current
          rcases opens_or_not (shared.reader number) feed with ⟨opened, opens⟩ | nothing
          · obtain rfl := Option.some.inj (here.symm.trans opens.current)
            change name ∈ ((shared.reader number).take feed).table.names
            rw [opens.names]
            split
            next known => exact known
            · exact List.mem_append_right _ (List.mem_singleton_self _)
          · rw [nothing.current] at here
            exact kept (sound.current number name here)
        · refine kept (sound.current number name ?_)
          simpa [SharedTable.perform, same] using current

theorem sound_after (operations : List Operation) : (after operations).Sound := by
  induction operations using List.reverseRecOn with
  | nil => exact ⟨List.nodup_nil, nofun⟩
  | append_singleton operations operation inductionHypothesis =>
      rw [after_snoc]
      exact inductionHypothesis.perform operation

/-- An attribute belongs to the component that its reader has come to. -/
theorem current_of_assign
    {state : Stanza.State} {text : List Char} {owner : String}
    {setting : Stanza.Attribute}
    (assigns : (Stanza.readLine state text).2 = some (.assign owner setting)) :
    state.current = some owner := by
  unfold Stanza.readLine at assigns
  dsimp only at assigns
  split at assigns
  · split at assigns <;> cases assigns
  · split at assigns
    next current _ =>
      cases assigns
      exact current
    · cases assigns

/-- What an attribute line says is entered into the record of its component. -/
theorem find?_perform_of_assign
    {shared : SharedTable} {number : Nat} {text : List Char} {owner : String}
    {setting : Stanza.Attribute} {record : Record}
    (assigns : (Stanza.readLine (shared.states number) text).2 =
      some (.assign owner setting))
    (found : shared.table.find? owner = some record)
    (file : Option String) :
    (shared.perform (.feed number (.line file text))).table.find? owner =
      some (setting.apply record) := by
  have table : (shared.perform (.feed number (.line file text))).table =
      (Stanza.Effect.assign owner setting).apply file shared.table := by
    rw [perform, Stanza.Reader.take, reader]
    dsimp only
    rw [assigns]
    rfl
  rw [table, Table.find?_apply_assign, found, Option.map_some, if_pos rfl]

/-- Whatever readers, requests and correlations do with a table that was empty, it
answers as a map in the order in which its names were added: every further operation
leaves the names that are there at the beginning, a request makes a component exactly if
there is none of its name, and the component that a reader has come to is in the table,
where its attributes are entered. -/
theorem shared_table_is_map (operations : List Operation) :
    (after operations).table.IsMap ∧
      (∀ operation,
        (after operations).table.names <+:
          (after (operations ++ [operation])).table.names) ∧
      (∀ name, (after operations).table.Requested name
        ((after operations).table.getOrCreate name)) ∧
      (∀ number, ((after operations).states number).current = none ∨
        ∃ name ∈ (after operations).table.names,
          ((after operations).states number).current = some name) ∧
      ∀ number text owner setting file,
        (Stanza.readLine ((after operations).states number) text).2 =
            some (.assign owner setting) →
          ∃ record, (after operations).table.find? owner = some record ∧
            (after (operations ++ [.feed number (.line file text)])).table.find? owner =
              some (setting.apply record) := by
  have sound := sound_after operations
  have isMap := Table.IsMap.of_nodup sound.nodup
  refine ⟨isMap, fun operation => ?_, (after operations).table.requested_getOrCreate,
    fun number => ?_, fun number text owner setting file assigns => ?_⟩
  · rw [after_snoc]
    exact (after operations).names_prefix_perform operation
  · cases current : ((after operations).states number).current with
    | none => exact .inl rfl
    | some name => exact .inr ⟨name, sound.current number name current, rfl⟩
  · have member := sound.current number owner (current_of_assign assigns)
    obtain ⟨record, found, -⟩ := isMap.present owner member
    rw [after_snoc]
    exact ⟨record, found, find?_perform_of_assign assigns found file⟩

/-- Two readers, a request and a correlation take turns. -/
def turns : List Operation :=
  [.feed 0 (.line (some "/k/a") "config A".toList),
    .feed 1 (.line (some "/k/b") "config B".toList), .request "A", .request "C",
    .correlate ⟨[], []⟩ none none [], .feed 1 (.line (some "/k/b") "config A".toList)]

/-- The first reader has come to a component that the others have changed since. -/
theorem shared_table_is_map_turns :
    (after turns).table.names = ["A", "B", "C"] ∧
      ((after turns).states 0).current = some "A" ∧
      ∃ record, (after turns).table.find? "A" = some record ∧
        (after (turns ++ [.feed 0 (.line none "select B".toList)])).table.find? "A" =
          some ((Stanza.Attribute.select "B").apply record) := by
  refine ⟨?_, ?_, (shared_table_is_map turns).2.2.2.2 0 "select B".toList "A"
    (.select "B") none ?_⟩
  · cbv
  · rfl
  · rfl

end SharedTable
end KernelInventory
