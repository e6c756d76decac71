import KernelInventory.Field
import Mathlib.Data.List.DropRight
import Mathlib.Data.List.Infix

/-!
# Occurrences of one text in another

Splitting at the leftmost occurrence of a text finds an occurrence whenever there
is one, none starts further in front, and a text that starts with it is split
there.  The field behind a keyword at the beginning of a line is therefore the
trimmed rest of the line.  Splitting at separators makes no characters up, leaves
no separator in a piece and takes apart what separators join, and a word at the
beginning of a text survives trimming.
-/

namespace KernelInventory
namespace Text

/-- A text that starts with the needle is split in front of its first character. -/
theorem splitAt?_of_prefix
    {needle text : List Char}
    (starts : needle <+: text) :
    splitAt? needle text = some ([], text.drop needle.length) := by
  cases text with
  | nil =>
      obtain rfl := List.prefix_nil.mp starts
      rfl
  | cons c rest =>
      have found : needle.isPrefixOf (c :: rest) = true :=
        List.isPrefixOf_iff_prefix.mpr starts
      simp [splitAt?, found]

/-- A text contains exactly the texts that occur in it without gaps. -/
theorem contains_iff_isInfix (text needle : List Char) :
    contains text needle = true ↔ needle <:+: text := by
  unfold contains
  induction text with
  | nil => simp [splitAt?, List.isEmpty_iff]
  | cons c rest inductionHypothesis =>
      rw [List.infix_cons_iff, ← inductionHypothesis, ← List.isPrefixOf_iff_prefix,
        splitAt?]
      by_cases starts : needle.isPrefixOf (c :: rest) = true
      · simp [starts]
      · simp [starts]

/-- A text is taken apart at an occurrence of the needle such that none starts further
in front, whether it overlaps with this one or not. -/
structure FirstOccurrence (needle text before behind : List Char) : Prop where
  whole : text = before ++ needle ++ behind
  first : ∀ front back, text = front ++ needle ++ back → before.length ≤ front.length

/-- A first occurrence stays the first one behind a character at which none starts. -/
theorem FirstOccurrence.cons
    {needle text before behind : List Char} {c : Char}
    (occurrence : FirstOccurrence needle text before behind)
    (starts : ¬ needle <+: c :: text) :
    FirstOccurrence needle (c :: text) (c :: before) behind where
  whole := congrArg (c :: ·) occurrence.whole
  first := by
    intro front back whole
    cases front with
    | nil => exact absurd ⟨back, whole.symm⟩ starts
    | cons first others =>
        have rest : text = others ++ needle ++ back := (List.cons.inj whole).2
        exact Nat.succ_le_succ (occurrence.first others back rest)

/-- A text is split at the first occurrence of the needle. -/
theorem firstOccurrence_of_splitAt?
    {needle text before behind : List Char}
    (found : splitAt? needle text = some (before, behind)) :
    FirstOccurrence needle text before behind := by
  induction text generalizing before with
  | nil =>
      rw [splitAt?, Option.ite_none_right_eq_some] at found
      obtain ⟨empty, same⟩ := found
      obtain ⟨rfl, rfl⟩ := Prod.mk.inj (Option.some.inj same)
      exact ⟨by simpa using empty, fun front back _ => Nat.zero_le _⟩
  | cons c rest inductionHypothesis =>
      by_cases starts : needle <+: c :: rest
      · rw [Text.splitAt?_of_prefix starts] at found
        obtain ⟨rfl, rfl⟩ := Prod.mk.inj (Option.some.inj found)
        exact ⟨(List.prefix_iff_eq_append.mp starts).symm, fun front back _ =>
          Nat.zero_le _⟩
      · rw [splitAt?, if_neg (by rwa [List.isPrefixOf_iff_prefix]),
          Option.map_eq_some_iff] at found
        obtain ⟨⟨others, rest⟩, found, same⟩ := found
        obtain ⟨rfl, rfl⟩ := Prod.mk.inj same
        exact (inductionHypothesis found).cons starts

/-- The pieces of a text hold its characters in their order, but for those that
separate. -/
theorem flatten_splitWhere (separates : Char → Bool) (text : List Char) :
    (splitWhere separates text).flatten = text.filter (!separates ·) := by
  induction text with
  | nil => rfl
  | cons c rest inductionHypothesis =>
      rw [splitWhere]
      cases separating : separates c with
      | true => simp [separating, inductionHypothesis]
      | false =>
          cases pieces : splitWhere separates rest with
          | nil => exact absurd pieces (splitWhere_ne_nil separates rest)
          | cons piece others =>
              rw [pieces] at inductionHypothesis
              simp [separating, ← inductionHypothesis]

theorem mem_and_not_separates_of_mem_splitWhere
    {separates : Char → Bool} {text piece : List Char} {c : Char}
    (part : piece ∈ splitWhere separates text) (member : c ∈ piece) :
    c ∈ text ∧ separates c = false := by
  have among := List.mem_flatten_of_mem part member
  rw [flatten_splitWhere, List.mem_filter] at among
  simpa using among

theorem mem_of_mem_splitString
    {separator c : Char} {text piece : String}
    (part : piece ∈ splitString separator text) (member : c ∈ piece.toList) :
    c ∈ text.toList := by
  obtain ⟨characters, inText, rfl⟩ := List.mem_map.mp part
  exact (mem_and_not_separates_of_mem_splitWhere inText (by simpa using member)).1

theorem separator_not_mem_of_mem_splitString
    {separator : Char} {text piece : String}
    (part : piece ∈ splitString separator text) :
    separator ∉ piece.toList := by
  intro member
  obtain ⟨characters, inText, rfl⟩ := List.mem_map.mp part
  obtain ⟨-, separate⟩ :=
    mem_and_not_separates_of_mem_splitWhere inText (String.toList_ofList ▸ member)
  exact Bool.eq_false_iff.mp separate (beq_self_eq_true separator)

theorem splitWhere_eq_splitOnP (separates : Char → Bool) (text : List Char) :
    splitWhere separates text = text.splitOnP separates := by
  induction text with
  | nil => rw [splitWhere_nil, List.splitOnP_nil]
  | cons c rest inductionHypothesis =>
      rw [splitWhere, inductionHypothesis, List.splitOnP_cons_eq_if_modifyHead]
      split
      · rfl
      · cases pieces : rest.splitOnP separates with
        | nil =>
            rw [← inductionHypothesis] at pieces
            exact absurd pieces (splitWhere_ne_nil separates rest)
        | cons piece others => rfl

theorem splitOn_eq (separator : Char) (text : List Char) :
    splitOn separator text = text.splitOn separator := by
  rw [splitOn, splitWhere_eq_splitOnP, List.splitOn_eq_splitOnP]

/-- What is joined by a separator that it does not hold is split into its parts
again. -/
theorem splitOn_intercalate
    {separator : Char} {mark : String} {parts : List String}
    (isMark : mark.toList = [separator])
    (nonempty : parts ≠ [])
    (free : ∀ part ∈ parts, separator ∉ part.toList) :
    splitOn separator (mark.intercalate parts).toList = parts.map String.toList := by
  rw [splitOn_eq, String.toList_intercalate, isMark]
  refine List.splitOn_intercalate separator ?_ (by simpa using nonempty)
  rwa [List.forall_mem_map]

theorem splitString_intercalate
    {separator : Char} {mark : String} {parts : List String}
    (isMark : mark.toList = [separator])
    (nonempty : parts ≠ [])
    (free : ∀ part ∈ parts, separator ∉ part.toList) :
    splitString separator (mark.intercalate parts) = parts := by
  rw [splitString, splitOn_intercalate isMark nonempty free, List.map_map]
  exact List.map_id'' (fun part => String.ofList_toList) parts

/-- The pieces of a text, joined by the separator between them, are the text again. -/
theorem intercalate_splitString
    {separator : Char} {mark : String}
    (isMark : mark.toList = [separator])
    (text : String) :
    mark.intercalate (splitString separator text) = text := by
  have pieces : (splitString separator text).map String.toList = splitOn separator
      text.toList := by
    rw [splitString, List.map_map]
    exact List.map_id'' (fun piece => String.toList_ofList) _
  rw [← String.toList_inj, String.toList_intercalate, pieces, isMark, splitOn_eq]
  exact List.intercalate_splitOn separator

/-- A text that does not end with a character that is dropped there is kept. -/
theorem dropEndWhile_of_ends
    {drop : Char → Bool} {text : List Char}
    (ends : ∀ c ∈ text.getLast?, drop c = false) :
    dropEndWhile drop text = text := by
  refine List.rdropWhile_eq_self_iff.mpr fun nonempty dropped => ?_
  rw [ends _ (List.getLast_mem_getLast? nonempty)] at dropped
  cases dropped

/-- A text that starts with characters which are not dropped from the end
starts with them still. -/
theorem prefix_dropEndWhile
    {drop : Char → Bool} {word : List Char}
    (kept : ∀ c ∈ word, drop c = false)
    (rest : List Char) :
    word <+: dropEndWhile drop (word ++ rest) := by
  induction rest using List.reverseRecOn with
  | nil =>
      rw [List.append_nil,
        dropEndWhile_of_ends fun c last => kept c (List.mem_of_mem_getLast? last)]
  | append_singleton rest last inductionHypothesis =>
      have step : dropEndWhile drop (word ++ rest ++ [last]) =
          if drop last then dropEndWhile drop (word ++ rest)
          else word ++ rest ++ [last] :=
        List.rdropWhile_concat drop (word ++ rest) last
      rw [← List.append_assoc, step]
      split
      · exact inductionHypothesis
      · rw [List.append_assoc]
        exact List.prefix_append word _

/-- A word without blanks at the beginning of a text, behind blanks,
begins the trimmed text. -/
theorem prefix_trim
    {word blanks text : List Char}
    (solid : ∀ c ∈ word, isBlank c = false)
    (blank : ∀ c ∈ blanks, isBlank c = true)
    (starts : word <+: text) :
    word <+: trim (blanks ++ text) := by
  obtain ⟨rest, rfl⟩ := starts
  cases word with
  | nil => exact List.nil_prefix
  | cons first others =>
      have leading : (blanks ++ (first :: others ++ rest)).dropWhile isBlank =
          first :: others ++ rest := by
        rw [List.dropWhile_append_of_pos blank]
        exact List.dropWhile_cons_of_neg (by simp [solid first List.mem_cons_self])
      rw [trim, dropEndsWhile, leading]
      exact prefix_dropEndWhile solid rest

/-- Characters are only taken away at the two ends. -/
theorem dropEndsWhile_isInfix (drop : Char → Bool) (text : List Char) :
    dropEndsWhile drop text <:+: text :=
  (List.rdropWhile_prefix drop _).isInfix.trans (List.dropWhile_suffix drop).isInfix

theorem trim_isInfix (text : List Char) : trim text <:+: text :=
  dropEndsWhile_isInfix isBlank text

end Text

namespace Field

/-- The field behind a keyword that a line starts with is the trimmed rest of the
line. -/
theorem after_of_prefix
    {line keyword : List Char}
    (starts : keyword <+: line) :
    after line keyword = Text.trim (line.drop keyword.length) := by
  unfold after
  rw [Text.splitAt?_of_prefix starts]

end Field
end KernelInventory
