import KernelInventory.Proofs.Text.Trimming

/-!
# Reading fields

The field behind a keyword is looked for behind its first occurrence in the line.
Whether the keyword overlaps with itself, or comes again in the value, makes no
difference, and in a line that starts with the keyword the field is the trimmed rest.
Between double quotes a value is read as it stands, with its own blanks and quotes,
unless a quote is the first or the last character of it.
-/

namespace KernelInventory
namespace Field

open Text

variable {line keyword : List Char}

theorem after_of_not_isInfix (absent : ¬ keyword <:+: line) :
    after line keyword = [] := by
  have missing : splitAt? keyword line = none := by
    rwa [← contains_iff_isInfix, contains, Bool.not_eq_true, Option.isSome_eq_false_iff,
      Option.isNone_iff_eq_none] at absent
  rw [after, missing]

theorem exists_firstOccurrence_of_isInfix (occurs : keyword <:+: line) :
    ∃ before behind, FirstOccurrence keyword line before behind ∧
      Trimmed isBlank behind (after line keyword) := by
  rw [← contains_iff_isInfix, contains, Option.isSome_iff_exists] at occurs
  obtain ⟨⟨before, behind⟩, found⟩ := occurs
  refine ⟨before, behind, firstOccurrence_of_splitAt? found, ?_⟩
  rw [after, found]
  exact trimmed_dropEndsWhile isBlank behind

/-- The quotes around a value are taken away, and nothing of the value is. -/
theorem quotedAfter_quoted
    {leading target trailing : List Char}
    (blankLeading : ∀ c ∈ leading, isBlank c = true)
    (blankTrailing : ∀ c ∈ trailing, isBlank c = true)
    (begins : target.head? ≠ some '"')
    (ends : target.getLast? ≠ some '"') :
    quotedAfter (keyword ++ (leading ++ ['"'] ++ target ++ ['"'] ++ trailing)) keyword =
      target := by
  have quoted : Trimmed isBlank (leading ++ ['"'] ++ target ++ ['"'] ++ trailing)
      (['"'] ++ target ++ ['"']) :=
    { whole := ⟨leading, trailing, by simp, blankLeading, blankTrailing⟩
      begins := by
        rintro c ⟨⟩
        decide
      ends := by
        intro c last
        rw [List.getLast?_concat] at last
        obtain ⟨⟩ := last
        decide }
  have unquoted : Trimmed (· == '"') (['"'] ++ target ++ ['"']) target :=
    { whole := ⟨['"'], ['"'], rfl, by simp, by simp⟩
      begins := fun c first => beq_eq_false_iff_ne.mpr fun same => begins (same ▸ first)
      ends := fun c last => beq_eq_false_iff_ne.mpr fun same => ends (same ▸ last) }
  rw [quotedAfter, after_of_prefix (List.prefix_append keyword _), List.drop_left, trim,
    quoted.dropEndsWhile_eq, unquoted.dropEndsWhile_eq]

theorem checked_of_ne_empty
    {keyword : String}
    (nonempty : keyword ≠ "")
    (read : List Char → List Char → List Char)
    (line : String) :
    checked read line keyword = .ok (String.ofList (read line.toList keyword.toList)) :=
  if_neg nonempty

/-- The field behind a keyword is empty in a line without the keyword, and else what is
left of the line behind the first occurrence when it is trimmed; in a line that starts
with the keyword this is the rest of the line.  A value between quotes is read back. -/
theorem field_behind_first_occurrence {keyword : String} (nonempty : keyword ≠ "") :
    (∀ line : String, ¬ keyword.toList <:+: line.toList → get line keyword = .ok "") ∧
      (∀ line : String, keyword.toList <:+: line.toList →
        ∃ before behind field,
          FirstOccurrence keyword.toList line.toList before behind ∧
          Trimmed isBlank behind field ∧ get line keyword = .ok (String.ofList field)) ∧
      (∀ rest : String, ∃ field, Trimmed isBlank rest.toList field ∧
        get (keyword ++ rest) keyword = .ok (String.ofList field)) ∧
      ∀ leading target trailing : String,
        (∀ c ∈ leading.toList, isBlank c = true) →
          (∀ c ∈ trailing.toList, isBlank c = true) →
        target.toList.head? ≠ some '"' → target.toList.getLast? ≠ some '"' →
          getQuoted (keyword ++ (leading ++ "\"" ++ target ++ "\"" ++ trailing))
            keyword =
            .ok target := by
  refine ⟨?_, ?_, ?_, ?_⟩
  · intro line absent
    rw [get, checked_of_ne_empty nonempty, after_of_not_isInfix absent,
      String.ofList_nil]
  · intro line occurs
    obtain ⟨before, behind, first, trimmed⟩ := exists_firstOccurrence_of_isInfix occurs
    exact ⟨before, behind, _, first, trimmed, checked_of_ne_empty nonempty after line⟩
  · intro rest
    refine ⟨_, trimmed_dropEndsWhile isBlank rest.toList, ?_⟩
    rw [get, checked_of_ne_empty nonempty, String.toList_append,
      after_of_prefix (List.prefix_append _ _), List.drop_left]
    rfl
  · intro leading target trailing blankLeading blankTrailing begins ends
    have line : (keyword ++ (leading ++ "\"" ++ target ++ "\"" ++ trailing)).toList =
        keyword.toList ++
          (leading.toList ++ ['"'] ++ target.toList ++ ['"'] ++ trailing.toList) := by
      simp [String.toList_append]
    rw [getQuoted, checked_of_ne_empty nonempty, line,
      quotedAfter_quoted blankLeading blankTrailing begins ends, String.ofList_toList]

/-- A keyword that overlaps with itself, one that comes again in the value, and a value
with blanks at its ends and a quote inside. -/
theorem field_behind_first_occurrence_overlapping :
    "aba" ≠ "" ∧ "source" ≠ "" ∧ get "sour ce" "source" = .ok "" ∧
      (∃ before behind field,
        FirstOccurrence "aba".toList "xababa b ".toList before behind ∧
        Trimmed isBlank behind field ∧
        get "xababa b " "aba" = .ok (String.ofList field)) ∧
      (∃ field, Trimmed isBlank " resource ".toList field ∧
        get "source resource " "source" = .ok (String.ofList field)) ∧
      getQuoted "source\t\" a\"b \" " "source" = .ok " a\"b " := by
  have overlapping := (field_behind_first_occurrence (show "aba" ≠ "" by decide)).2.1
  obtain ⟨absent, -, start, quoted⟩ :=
    field_behind_first_occurrence (show "source" ≠ "" by decide)
  refine ⟨by decide, by decide, absent "sour ce" (by decide),
    overlapping "xababa b " (by decide), start " resource ", ?_⟩
  exact quoted "\t" " a\"b " " " (List.forall_mem_singleton.mpr rfl)
    (List.forall_mem_singleton.mpr rfl) (by decide) (by decide)

end Field
end KernelInventory
