import KernelInventory.Component.Record

/-!
# The component table

A table keeps one record for each component, in the order in which the
components were first seen.
-/

namespace KernelInventory

/-- Records in the order of their first sighting. -/
structure Table where
  records : List Record := []
deriving Repr, DecidableEq

namespace Table

/-- The table without components. -/
def empty : Table := ⟨[]⟩

/-- The record of a component. -/
def find? (table : Table) (name : String) : Option Record :=
  table.records.find? fun record => record.name = name

/-- Whether the table has a record of the component. -/
def contains (table : Table) (name : String) : Bool :=
  (table.find? name).isSome

/-- The names of the components, in the order of their first sighting. -/
def names (table : Table) : List String :=
  table.records.map (·.name)

/-- The number of components. -/
def size (table : Table) : Nat :=
  table.records.length

/-- Add a fresh record for a component at the end, unless the table has one. -/
def ensure (table : Table) (name : String) : Table :=
  if table.contains name then table else ⟨table.records ++ [{ name := name }]⟩

/-- The record of a component, which is created at its first sighting, and whether it
was. -/
def getOrCreate (table : Table) (name : String) : Table × Record × Bool :=
  match table.find? name with
  | some record => (table, record, false)
  | none => (table.ensure name, { name := name }, true)

/-- Change the record of a component; a table without that component stays as it is. -/
def modify (table : Table) (name : String) (change : Record → Record) : Table :=
  ⟨table.records.map fun record => if record.name = name then change record else record⟩

/-- The number of source lines in all attached blocks of code. -/
def totalCodeLines (table : Table) : Nat :=
  tally Record.codeLines table.records

@[simp] theorem find?_empty (name : String) : empty.find? name = none := rfl

@[simp] theorem names_empty : empty.names = [] := rfl

theorem length_names (table : Table) : table.names.length = table.size := by
  simp [names, size]

/-- A table contains exactly the components it names. -/
theorem contains_iff_mem_names (table : Table) (name : String) :
    table.contains name = true ↔ name ∈ table.names := by
  simp [contains, find?, names]

end Table
end KernelInventory
