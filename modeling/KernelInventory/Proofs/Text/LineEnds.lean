import KernelInventory.Proofs.Text.Lines

/-!
# Line ends

A text is made of its lines in one way only: each of them holds no character that ends a
line, and is ended by a line feed, by a carriage return that no line feed follows, or by
the pair of both. The last line may lack an end, but is then not empty.
-/

namespace KernelInventory
namespace Text

/-- A text is made of lines with their ends. -/
inductive Lined : List Char → List (List Char) → Prop
  /-- Nothing holds no lines. -/
  | nothing : Lined [] []
  /-- A line is ended by a line feed. -/
  | feed {line rest : List Char} {lines : List (List Char)} :
      Unbroken line → Lined rest lines → Lined (line ++ '\n' :: rest) (line :: lines)
  /-- A line is ended by a carriage return with a line feed. -/
  | pair {line rest : List Char} {lines : List (List Char)} :
      Unbroken line → Lined rest lines →
        Lined (line ++ '\r' :: '\n' :: rest) (line :: lines)
  /-- A line is ended by a carriage return alone. -/
  | lone {line rest : List Char} {lines : List (List Char)} :
      Unbroken line → rest.head? ≠ some '\n' → Lined rest lines →
        Lined (line ++ '\r' :: rest) (line :: lines)
  /-- The last line is not ended. -/
  | last {line : List Char} : Unbroken line → line ≠ [] → Lined line [line]

/-- Up to the end of its first line a text stays as it is when line ends are made
one. -/
theorem unifyBreaks_append {line : List Char} (unbroken : '\r' ∉ line)
    (rest : List Char) :
    unifyBreaks (line ++ rest) = line ++ unifyBreaks rest := by
  induction line with
  | nil => rfl
  | cons c others inductionHypothesis =>
      rw [List.mem_cons, not_or] at unbroken
      have plain : unifyBreaks (c :: (others ++ rest)) = c :: unifyBreaks
          (others ++ rest) :=
        unifyBreaks.eq_4 _ _ (fun _ same => absurd same.symm unbroken.1)
          (fun same => absurd same.symm unbroken.1)
      rw [List.cons_append, plain, inductionHypothesis unbroken.2, List.cons_append]

theorem lines_append_of_unified
    {line ended rest : List Char}
    (unbroken : Unbroken line)
    (unified : unifyBreaks ended = '\n' :: unifyBreaks rest) :
    lines (line ++ ended) = line :: lines rest := by
  rw [lines, unifyBreaks_append unbroken.2, unified,
    feedLines_append_feed unbroken.1, lines]

theorem unifyBreaks_lone {rest : List Char} (alone : rest.head? ≠ some '\n') :
    unifyBreaks ('\r' :: rest) = '\n' :: unifyBreaks rest :=
  unifyBreaks.eq_3 rest fun _ same => alone (same ▸ rfl)

/-- The lines that a text is made of are its lines. -/
theorem Lined.lines_eq
    {text : List Char} {written : List (List Char)}
    (lined : Lined text written) :
    lines text = written := by
  induction lined with
  | nothing => rfl
  | feed unbroken _ inductionHypothesis =>
      rw [lines_append_of_unified unbroken rfl, inductionHypothesis]
  | pair unbroken _ inductionHypothesis =>
      rw [lines_append_of_unified unbroken rfl, inductionHypothesis]
  | lone unbroken alone _ inductionHypothesis =>
      rw [lines_append_of_unified unbroken (unifyBreaks_lone alone),
        inductionHypothesis]
  | last unbroken nonempty =>
      rw [lines, unifyBreaks_of_not_mem unbroken.2,
        feedLines_of_not_mem unbroken.1 nonempty]

/-- A text holds no line end, or it begins with a line that is ended. -/
theorem unbroken_or_broken (text : List Char) :
    Unbroken text ∨ ∃ line c rest,
      text = line ++ c :: rest ∧ Unbroken line ∧ (c = '\n' ∨ c = '\r') := by
  induction text with
  | nil => exact Or.inl ⟨List.not_mem_nil, List.not_mem_nil⟩
  | cons first others inductionHypothesis =>
      by_cases ends : first = '\n' ∨ first = '\r'
      · exact Or.inr ⟨[], first, others, rfl,
          ⟨List.not_mem_nil, List.not_mem_nil⟩, ends⟩
      · rw [not_or] at ends
        have further {line : List Char} (unbroken : Unbroken line) :
            Unbroken (first :: line) :=
          ⟨List.not_mem_cons_of_ne_of_not_mem (Ne.symm ends.1) unbroken.1,
            List.not_mem_cons_of_ne_of_not_mem (Ne.symm ends.2) unbroken.2⟩
        rcases inductionHypothesis with unbroken | ⟨line, c, rest, rfl, unbroken, isEnd⟩
        · exact Or.inl (further unbroken)
        · exact Or.inr ⟨first :: line, c, rest, rfl, further unbroken, isEnd⟩

theorem exists_lined (text : List Char) : ∃ written, Lined text written := by
  -- on the length, as a carriage return and a feed behind it are taken at once
  induction length : text.length using Nat.strongRecOn generalizing text with
  | ind count inductionHypothesis =>
      rcases unbroken_or_broken text with unbroken |
        ⟨line, c, rest, rfl, unbroken, isEnd⟩
      · by_cases empty : text = []
        · exact ⟨[], empty ▸ Lined.nothing⟩
        · exact ⟨[text], Lined.last unbroken empty⟩
      · have shorter : rest.length < count := by
          rw [← length, List.length_append, List.length_cons]
          omega
        rcases isEnd with rfl | rfl
        · obtain ⟨behind, lined⟩ := inductionHypothesis _ shorter rest rfl
          exact ⟨line :: behind, Lined.feed unbroken lined⟩
        · by_cases paired : rest.head? = some '\n'
          · obtain ⟨others, rfl⟩ := List.head?_eq_some_iff.mp paired
            obtain ⟨behind, lined⟩ :=
              inductionHypothesis _ (Nat.lt_of_succ_lt shorter) others rfl
            exact ⟨line :: behind, Lined.pair unbroken lined⟩
          · obtain ⟨behind, lined⟩ := inductionHypothesis _ shorter rest rfl
            exact ⟨line :: behind, Lined.lone unbroken paired lined⟩

/-- A text is made of its lines, and of no others. -/
theorem lined_iff {text : List Char} {written : List (List Char)} :
    Lined text written ↔ written = lines text := by
  constructor
  · exact fun lined => lined.lines_eq.symm
  · rintro rfl
    obtain ⟨written, lined⟩ := exists_lined text
    exact lined.lines_eq ▸ lined

end Text
end KernelInventory
