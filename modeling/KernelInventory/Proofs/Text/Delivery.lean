import KernelInventory.Proofs.Text.Lines
import KernelInventory.Proofs.Text.Words

/-!
# Lines delivered one by one

A text is used up line by line.  The lines that are delivered are those of the text,
each with the line feed that ends it, which makes no difference to what is left of a
line when it is trimmed.
-/

namespace KernelInventory
namespace Text

/-- A line is taken with the line feed that ends it. -/
theorem takeLine_append_feed
    {line : List Char}
    (unbroken : '\n' ∉ line)
    (rest : List Char) :
    takeLine (line ++ '\n' :: rest) = some (line ++ ['\n'], rest) := by
  induction line with
  | nil => rfl
  | cons c others inductionHypothesis =>
      rw [List.mem_cons, not_or] at unbroken
      rw [List.cons_append, takeLine, if_neg (Ne.symm unbroken.1),
        inductionHypothesis unbroken.2]
      rfl

/-- A text without line feeds is taken as a whole. -/
theorem takeLine_of_not_mem
    {line : List Char}
    (nonempty : line ≠ [])
    (unbroken : '\n' ∉ line) :
    takeLine line = some (line, []) := by
  induction line with
  | nil => exact absurd rfl nonempty
  | cons c others inductionHypothesis =>
      rw [List.mem_cons, not_or] at unbroken
      rw [takeLine, if_neg (Ne.symm unbroken.1)]
      cases others with
      | nil => rfl
      | cons next behind => rw [inductionHypothesis (List.cons_ne_nil _ _) unbroken.2]

/-- A text is empty, begins with a line that a line feed ends, or is a
last line without one. -/
theorem line_induction
    {motive : List Char → Prop}
    (nothing : motive [])
    (further : ∀ line rest, '\n' ∉ line → motive rest → motive (line ++ '\n' :: rest))
    (last : ∀ line, line ≠ [] → '\n' ∉ line → motive line)
    (text : List Char) :
    motive text := by
  induction length : text.length using Nat.strongRecOn generalizing text with
  | ind count inductionHypothesis =>
      by_cases broken : '\n' ∈ text
      · obtain ⟨line, rest, rfl, unbroken⟩ := List.eq_append_cons_of_mem broken
        refine further line rest unbroken (inductionHypothesis rest.length ?_ rest rfl)
        rw [← length, List.length_append, List.length_cons]
        omega
      · by_cases empty : text = []
        · exact empty ▸ nothing
        · exact last text empty broken

/-- A blank behind a text is trimmed off. -/
theorem trim_append_blank {c : Char} (blank : isBlank c = true) (text : List Char) :
    trim (text ++ [c]) = trim text := by
  rw [trim, dropEndsWhile, List.dropWhile_append, trim, dropEndsWhile]
  cases begins : text.dropWhile isBlank with
  | nil => simp [blank]
  | cons first others => exact List.rdropWhile_concat_pos isBlank _ _ blank

end Text
end KernelInventory
