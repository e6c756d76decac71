import KernelInventory.Proofs.Text.Words

/-!
# Trimmed texts

Trimming takes a text apart into characters that are dropped at its beginning, what is
kept, and characters that are dropped at its end, such that what is kept neither begins
nor ends with a character that is dropped.  There is only one way to do so.
-/

namespace KernelInventory
namespace Text

variable {drop : Char → Bool} {text kept : List Char}

/-- What is kept of a text whose ends are trimmed. -/
structure Trimmed (drop : Char → Bool) (text kept : List Char) : Prop where
  whole : ∃ front back, text = front ++ kept ++ back ∧
    (∀ c ∈ front, drop c = true) ∧ ∀ c ∈ back, drop c = true
  begins : ∀ c ∈ kept.head?, drop c = false
  ends : ∀ c ∈ kept.getLast?, drop c = false

theorem trimmed_dropEndsWhile (drop : Char → Bool) (text : List Char) :
    Trimmed drop text (dropEndsWhile drop text) where
  whole := by
    refine ⟨text.takeWhile drop, (text.dropWhile drop).rtakeWhile drop, ?_,
      fun c member => List.mem_takeWhile_imp member,
      fun c member => List.mem_rtakeWhile_imp member⟩
    have behind : dropEndsWhile drop text ++ (text.dropWhile drop).rtakeWhile drop =
        text.dropWhile drop :=
      List.rdropWhile_append_rtakeWhile
    rw [List.append_assoc, behind, List.takeWhile_append_dropWhile]
  begins := head?_dropEndsWhile drop text
  ends := by
    intro c last
    obtain ⟨nonempty, rfl⟩ := List.mem_getLast?_eq_getLast last
    exact Bool.eq_false_iff.mpr
      (List.rdropWhile_last_not drop (text.dropWhile drop) nonempty)

/-- Characters that are dropped at the end of a text do not matter. -/
theorem dropEndWhile_append_of_dropped
    {back : List Char}
    (dropped : ∀ c ∈ back, drop c = true)
    (text : List Char) :
    dropEndWhile drop (text ++ back) = dropEndWhile drop text := by
  rw [dropEndWhile, List.reverse_append,
    List.dropWhile_append_of_pos (by simpa using dropped), dropEndWhile]

theorem Trimmed.dropEndsWhile_eq (trimmed : Trimmed drop text kept) :
    dropEndsWhile drop text = kept := by
  obtain ⟨front, back, rfl, droppedFront, droppedBack⟩ := trimmed.whole
  have start : (front ++ kept ++ back).dropWhile drop = (kept ++ back).dropWhile
      drop := by
    rw [List.append_assoc, List.dropWhile_append_of_pos droppedFront]
  cases kept with
  | nil =>
      have nothing : (front ++ [] ++ back).dropWhile drop = [] := by
        rw [start]
        exact List.dropWhile_eq_nil_iff.mpr droppedBack
      rw [dropEndsWhile, nothing]
      rfl
  | cons c others =>
      have stopped : ¬ drop c = true := Bool.eq_false_iff.mp (trimmed.begins c rfl)
      rw [dropEndsWhile, start, List.cons_append, List.dropWhile_cons_of_neg stopped,
        ← List.cons_append, dropEndWhile_append_of_dropped droppedBack,
        dropEndWhile_of_ends trimmed.ends]

/-- A text is trimmed in one way only. -/
theorem dropEndsWhile_eq_iff : dropEndsWhile drop text = kept ↔
    Trimmed drop text kept :=
  ⟨fun same => same ▸ trimmed_dropEndsWhile drop text, Trimmed.dropEndsWhile_eq⟩

/-- Nothing is trimmed off a text that has been trimmed. -/
theorem trim_trim (text : List Char) : trim (trim text) = trim text :=
  dropEndsWhile_eq_iff.mpr
    ⟨⟨[], [], by simp⟩, (trimmed_dropEndsWhile isBlank text).begins,
      (trimmed_dropEndsWhile isBlank text).ends⟩

end Text
end KernelInventory
