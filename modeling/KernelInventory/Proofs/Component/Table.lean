import KernelInventory.Component.Table
import Mathlib.Data.List.Induction
import Mathlib.Data.List.Nodup

/-!
# The component table as an ordered map

A table whose records carry their own names, one for each name of a list without
repetition, answers every lookup with the record of the name, changes one record at a
time, and grows at its end only.
-/

namespace KernelInventory

/-- A further member of a list is a new first sighting exactly when it has not been
seen. -/
theorem eraseDups_snoc {α : Type} [BEq α] [LawfulBEq α] (seen : List α) (name : α) :
    (seen ++ [name]).eraseDups =
      if name ∈ seen then seen.eraseDups else seen.eraseDups ++ [name] := by
  rw [List.eraseDups_append]
  by_cases present : name ∈ seen
  · simp [List.removeAll, present]
  · simp [List.removeAll, present, List.eraseDups_cons]

/-- Each member of a list has one first sighting. -/
theorem nodup_eraseDups {α : Type} [BEq α] [LawfulBEq α] (names : List α) :
    names.eraseDups.Nodup := by
  induction names using List.reverseRecOn with
  | nil => simp
  | append_singleton seen name inductionHypothesis =>
      rw [eraseDups_snoc]
      split
      · exact inductionHypothesis
      next absent =>
        rw [List.nodup_append]
        refine ⟨inductionHypothesis, List.nodup_singleton name, ?_⟩
        intro earlier member other here
        rw [List.mem_singleton.mp here]
        rintro rfl
        exact absent (List.mem_eraseDups.mp member)

namespace Table

/-- The table with one record for each of some names. -/
def ofNames (names : List String) (record : String → Record) : Table :=
  ⟨names.map record⟩

section OfNames

variable {names : List String} {record : String → Record}

theorem names_ofNames (named : ∀ name, (record name).name = name) :
    (ofNames names record).names = names := by
  simp [ofNames, Table.names, Function.comp_def, named]

/-- A lookup finds the record of a name, and nothing for other names. -/
theorem find?_ofNames (named : ∀ name, (record name).name = name) (name : String) :
    (ofNames names record).find? name = if name ∈ names then some (record name)
    else none := by
  induction names with
  | nil => simp [ofNames, find?]
  | cons first rest inductionHypothesis =>
      have step : (ofNames (first :: rest) record).find? name =
          if first = name then some (record first)
          else (ofNames rest record).find? name := by
        by_cases same : first = name <;> simp [ofNames, find?, named, same]
      rw [step, inductionHypothesis]
      by_cases same : first = name
      · simp [same]
      · simp [same, Ne.symm same]

theorem contains_ofNames (named : ∀ name, (record name).name = name) (name : String) :
    (ofNames names record).contains name = decide (name ∈ names) := by
  rw [contains, find?_ofNames named]
  by_cases present : name ∈ names <;> simp [present]

/-- A change concerns the record of one name. -/
theorem modify_ofNames
    (named : ∀ name, (record name).name = name) (name : String)
    (change : Record → Record) :
    (ofNames names record).modify name change =
      ofNames names fun other => if other = name then change (record other)
      else record other := by
  simp only [ofNames, modify, List.map_map, Function.comp_def, named]

/-- A name that is not in the table gets a fresh record at the end. -/
theorem ensure_ofNames
    (named : ∀ name, (record name).name = name) (name : String)
    (fresh : name ∉ names → record name = { name := name }) :
    (ofNames names record).ensure name =
      ofNames (if name ∈ names then names else names ++ [name]) record := by
  rw [ensure, contains_ofNames named]
  by_cases present : name ∈ names
  · simp [present]
  · simp [present, ofNames, fresh present]

theorem ofNames_congr
    {other : String → Record}
    (same : ∀ name ∈ names, record name = other name) :
    ofNames names record = ofNames names other := by
  rw [ofNames, ofNames, List.map_congr_left same]

end OfNames

end Table
end KernelInventory
