import KernelInventory.Text.Lines

/-!
# Writing lines and reading them back

The lines of a text hold no line ends, and lines without line ends are the lines of the
text in which each of them is ended by a line feed.
-/

namespace KernelInventory
namespace Text

/-- Whether a line holds no character that ends a line. -/
def Unbroken (line : List Char) : Prop :=
  '\n' ∉ line ∧ '\r' ∉ line

/-- The text of lines, each ended by a line feed. -/
def writeLines (lines : List (List Char)) : List Char :=
  lines.flatMap (· ++ ['\n'])

theorem return_not_mem_unifyBreaks (text : List Char) : '\r' ∉ unifyBreaks text := by
  fun_induction unifyBreaks text with
  | case1 => simp
  | case2 rest inductionHypothesis => simp [inductionHypothesis]
  | case3 rest _ inductionHypothesis => simp [inductionHypothesis]
  | case4 c rest _ different inductionHypothesis =>
      simp [inductionHypothesis, Ne.symm different]

theorem unifyBreaks_of_not_mem {text : List Char} (absent : '\r' ∉ text) :
    unifyBreaks text = text := by
  fun_induction unifyBreaks text with
  | case1 => rfl
  | case2 => simp at absent
  | case3 => simp at absent
  | case4 c rest _ _ inductionHypothesis =>
      rw [inductionHypothesis fun member => absent (List.mem_cons_of_mem c member)]

/-- The characters of a line are characters of the text, and none of them is a line
feed. -/
theorem of_mem_feedLines
    {text line : List Char}
    (member : line ∈ feedLines text) :
    '\n' ∉ line ∧ line ⊆ text := by
  induction text generalizing line with
  | nil => cases member
  | cons c rest inductionHypothesis =>
      have behind {other : List Char} (earlier : other ∈ feedLines rest) :
          '\n' ∉ other ∧ other ⊆ c :: rest :=
        (inductionHypothesis earlier).imp_right (List.subset_cons_of_subset c)
      rw [feedLines] at member
      split at member
      · rcases List.mem_cons.mp member with rfl | later
        · exact ⟨List.not_mem_nil, List.nil_subset _⟩
        · exact behind later
      next unbroken =>
        cases split : feedLines rest with
        | nil =>
            rw [split, consLine, List.mem_singleton] at member
            subst member
            exact ⟨by simpa using Ne.symm unbroken, by simp⟩
        | cons first others =>
            rw [split, consLine, List.mem_cons] at member
            rcases member with rfl | later
            · obtain ⟨unbrokenFirst, inside⟩ := behind (split ▸ List.mem_cons_self)
              refine ⟨?_, List.cons_subset.mpr ⟨List.mem_cons_self, inside⟩⟩
              rw [List.mem_cons, not_or]
              exact ⟨Ne.symm unbroken, unbrokenFirst⟩
            · exact behind (split ▸ List.mem_cons_of_mem first later)

theorem unbroken_of_mem_lines
    {text line : List Char}
    (member : line ∈ lines text) :
    Unbroken line :=
  have inside := of_mem_feedLines member
  ⟨inside.1, fun broken => return_not_mem_unifyBreaks text (inside.2 broken)⟩

/-- Only line feeds are put in the place of line ends. -/
theorem unifyBreaks_subset (text : List Char) : unifyBreaks text ⊆ '\n' :: text := by
  fun_induction unifyBreaks text with
  | case1 => exact List.nil_subset _
  | case2 rest inductionHypothesis | case3 rest _ inductionHypothesis =>
      refine List.cons_subset.mpr ⟨List.mem_cons_self, fun c member => ?_⟩
      rcases List.mem_cons.mp (inductionHypothesis member) with feed | inRest
      · simp [*]
      · simp [*]
  | case4 first rest _ _ inductionHypothesis =>
      refine List.cons_subset.mpr ⟨by simp, fun c member => ?_⟩
      rcases List.mem_cons.mp (inductionHypothesis member) with feed | inRest
      · simp [*]
      · simp [*]

/-- A line holds no characters but those of the text. -/
theorem mem_of_mem_lines
    {text line : List Char} {c : Char}
    (part : line ∈ lines text) (member : c ∈ line) :
    c ∈ text := by
  obtain ⟨unbroken, inside⟩ := of_mem_feedLines part
  rcases List.mem_cons.mp (unifyBreaks_subset text (inside member)) with rfl | inText
  · exact absurd member unbroken
  · exact inText

theorem feedLines_append_feed
    {line : List Char}
    (unbroken : '\n' ∉ line)
    (rest : List Char) :
    feedLines (line ++ '\n' :: rest) = line :: feedLines rest := by
  induction line with
  | nil => rfl
  | cons c others inductionHypothesis =>
      rw [List.mem_cons, not_or] at unbroken
      rw [List.cons_append, feedLines, if_neg (Ne.symm unbroken.1),
        inductionHypothesis unbroken.2, consLine]

theorem lines_writeLines
    {written : List (List Char)}
    (unbroken : ∀ line ∈ written, Unbroken line) :
    lines (writeLines written) = written := by
  have noReturn : '\r' ∉ writeLines written := by
    simp only [writeLines, List.mem_flatMap, List.mem_append, List.mem_singleton,
      not_exists, not_and, not_or]
    exact fun line member => ⟨(unbroken line member).2, by decide⟩
  rw [lines, unifyBreaks_of_not_mem noReturn]
  clear noReturn
  induction written with
  | nil => rfl
  | cons line rest inductionHypothesis =>
      have feeds : writeLines (line :: rest) = line ++ '\n' :: writeLines rest := by
        simp [writeLines]
      rw [feeds, feedLines_append_feed (unbroken line List.mem_cons_self).1,
        inductionHypothesis fun other member =>
          unbroken other (List.mem_cons_of_mem line member)]

/-- A text without line feeds is one line. -/
theorem feedLines_of_not_mem
    {line : List Char}
    (unbroken : '\n' ∉ line)
    (nonempty : line ≠ []) :
    feedLines line = [line] := by
  induction line with
  | nil => exact absurd rfl nonempty
  | cons c others inductionHypothesis =>
      rw [List.mem_cons, not_or] at unbroken
      rw [feedLines, if_neg (Ne.symm unbroken.1)]
      by_cases last : others = []
      · rw [last, feedLines_nil, consLine]
      · rw [inductionHypothesis unbroken.2 last, consLine]

theorem return_not_mem_unlines
    {joined : List (List Char)}
    (unbroken : ∀ line ∈ joined, Unbroken line) :
    '\r' ∉ unlines joined := by
  induction joined with
  | nil => exact List.not_mem_nil
  | cons line rest inductionHypothesis =>
      have first := (unbroken line List.mem_cons_self).2
      cases rest with
      | nil => simpa [unlines] using first
      | cons next others =>
          have behind := inductionHypothesis (List.forall_mem_cons.mp unbroken).2
          rw [unlines] at behind ⊢
          rw [List.intercalate_cons_cons, List.mem_append, List.mem_append,
            List.mem_singleton]
          exact not_or.mpr ⟨not_or.mpr ⟨first, by decide⟩, behind⟩

/-- Lines that are joined are read back, unless the last one is empty: nothing is left
of it behind the line feed in front. -/
theorem lines_unlines
    {joined : List (List Char)}
    (unbroken : ∀ line ∈ joined, Unbroken line)
    (last : joined.getLast? ≠ some []) :
    lines (unlines joined) = joined := by
  rw [lines, unifyBreaks_of_not_mem (return_not_mem_unlines unbroken)]
  induction joined with
  | nil => rfl
  | cons line rest inductionHypothesis =>
      have first := (unbroken line List.mem_cons_self).1
      cases rest with
      | nil =>
          have nonempty : line ≠ [] := by simpa using last
          rw [unlines, List.intercalate_singleton, feedLines_of_not_mem first nonempty]
      | cons next others =>
          have behind := inductionHypothesis (List.forall_mem_cons.mp unbroken).2
            (by rwa [List.getLast?_cons_cons] at last)
          rw [unlines] at behind ⊢
          rw [List.intercalate_cons_cons, List.append_assoc, List.singleton_append,
            feedLines_append_feed first, behind]

end Text
end KernelInventory
