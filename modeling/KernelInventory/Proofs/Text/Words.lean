import KernelInventory.Proofs.Text.Search
import KernelInventory.Text.Blank
import Mathlib.Data.List.TakeWhile

/-!
# The words of a text

A blank takes a text apart into the words in front of it and the words behind it.  How
many blanks stand between two words, or around all of them, therefore makes no
difference: neither trimming a text nor expanding its tabs changes its words.
-/

namespace KernelInventory
namespace Text

/-- Whether a text holds no blank. -/
def Solid (text : List Char) : Prop :=
  ∀ c ∈ text, isBlank c = false

-- found by name: with all characters being listed in scope, instance search would try
-- every one
instance : DecidablePred Solid := fun text =>
  List.decidableBAll (fun c => isBlank c = false) text

/-- A text begins with a blank, unless nothing is left of it. -/
def Breaks (text : List Char) : Prop :=
  ∀ c ∈ text.head?, isBlank c = true

theorem words_eq (text : List Char) :
    words text = (text.splitOnP isBlank).filter (!·.isEmpty) := by
  rw [words, splitWhere_eq_splitOnP]

/-- The words of a text are those in front of a blank and those behind it. -/
theorem words_append_blank {c : Char} (blank : isBlank c = true)
    (left right : List Char) :
    words (left ++ c :: right) = words left ++ words right := by
  rw [words_eq, List.splitOnP_append_cons left right blank,
    List.filter_append, ← words_eq, ← words_eq]

/-- Blanks in front of a text belong to no word. -/
theorem words_append_of_blank
    {blanks : List Char}
    (blank : ∀ c ∈ blanks, isBlank c = true)
    (text : List Char) :
    words (blanks ++ text) = words text := by
  induction blanks with
  | nil => rfl
  | cons c others inductionHypothesis =>
      rw [List.forall_mem_cons] at blank
      rw [List.cons_append, words_cons_blank blank.1, inductionHypothesis blank.2]

/-- A text without blanks is one word, unless it is empty. -/
theorem words_of_solid {word : List Char} (nonempty : word ≠ []) (solid : Solid word) :
    words word = [word] := by
  rw [words_eq, List.splitOnP_eq_singleton solid]
  simp [nonempty]

/-- A word ends where a blank stands, or at the end of the text. -/
theorem words_append_of_breaks
    {word rest : List Char}
    (nonempty : word ≠ [])
    (solid : Solid word)
    (breaks : Breaks rest) :
    words (word ++ rest) = word :: words rest := by
  cases rest with
  | nil => rw [List.append_nil, words_of_solid nonempty solid, words_nil]
  | cons c others =>
      have blank := breaks c rfl
      rw [words_append_blank blank, words_of_solid nonempty solid,
        words_cons_blank blank]
      rfl

/-- A text that does not begin with a blank begins with a word. -/
theorem exists_word_of_head
    {text : List Char}
    (nonempty : text ≠ [])
    (begins : ∀ c ∈ text.head?, isBlank c = false) :
    ∃ word rest, text = word ++ rest ∧ word ≠ [] ∧ Solid word ∧ Breaks rest := by
  refine ⟨text.takeWhile (!isBlank ·), text.dropWhile (!isBlank ·),
    List.takeWhile_append_dropWhile.symm, ?_, ?_, ?_⟩
  · obtain ⟨c, others, rfl⟩ := List.exists_cons_of_ne_nil nonempty
    simp [begins c rfl]
  · intro c member
    simpa using List.mem_takeWhile_imp member
  · intro c head
    have stopped := List.head?_dropWhile_not (!isBlank ·) text
    rw [Option.mem_def.mp head] at stopped
    simpa using stopped

/-- Characters without a blank among them, in front of a text that begins with a
word, belong to that word. -/
theorem words_append_of_solid
    {front text : List Char}
    (solid : Solid front)
    (nonempty : text ≠ [])
    (begins : ∀ c ∈ text.head?, isBlank c = false) :
    ∃ word others, word ≠ [] ∧ words text = word :: others ∧
      words (front ++ text) = (front ++ word) :: others := by
  obtain ⟨word, rest, rfl, filled, solidWord, breaks⟩ :=
    exists_word_of_head nonempty begins
  have joined : Solid (front ++ word) := List.forall_mem_append.mpr ⟨solid, solidWord⟩
  refine ⟨word, words rest, filled, words_append_of_breaks filled solidWord breaks, ?_⟩
  rw [← List.append_assoc, words_append_of_breaks (by simp [filled]) joined breaks]

/-- Only blanks hold no word. -/
theorem blank_of_words_eq_nil {text : List Char} (wordless : words text = []) :
    ∀ c ∈ text, isBlank c = true := by
  induction text with
  | nil => simp
  | cons c rest inductionHypothesis =>
      cases blank : isBlank c with
      | true =>
          rw [words_cons_blank blank] at wordless
          exact List.forall_mem_cons.mpr ⟨blank, inductionHypothesis wordless⟩
      | false =>
          obtain ⟨word, rest, same, filled, solid, breaks⟩ :=
            exists_word_of_head (List.cons_ne_nil c rest) (by simpa using blank)
          rw [same, words_append_of_breaks filled solid breaks] at wordless
          cases wordless

/-! ## Trimmed texts -/

/-- Blanks behind a text belong to no word. -/
theorem words_dropEndWhile
    {drop : Char → Bool}
    (onlyBlanks : ∀ c, drop c = true → isBlank c = true)
    (text : List Char) :
    words (dropEndWhile drop text) = words text := by
  induction text using List.reverseRecOn with
  | nil => rfl
  | append_singleton text last inductionHypothesis =>
      have step : dropEndWhile drop (text ++ [last]) =
          if drop last then dropEndWhile drop text else text ++ [last] :=
        List.rdropWhile_concat drop text last
      rw [step]
      split
      next dropped =>
        rw [inductionHypothesis, words_append_blank (onlyBlanks last dropped),
          words_nil, List.append_nil]
      · rfl

/-- Trimming a text changes no word of it. -/
@[simp] theorem words_trim (text : List Char) : words (trim text) = words text := by
  have split : text = text.takeWhile isBlank ++ text.dropWhile isBlank :=
    List.takeWhile_append_dropWhile.symm
  have blank : ∀ c ∈ text.takeWhile isBlank, isBlank c = true :=
    fun c member => List.mem_takeWhile_imp member
  rw [trim, dropEndsWhile, words_dropEndWhile fun c => id]
  conv_rhs => rw [split, words_append_of_blank blank]

/-- What is left between two ends does not begin with anything that is dropped there. -/
theorem head?_dropEndsWhile (drop : Char → Bool) (text : List Char) :
    ∀ c ∈ (dropEndsWhile drop text).head?, drop c = false := by
  intro c head
  have kept : dropEndsWhile drop text <+: text.dropWhile drop :=
    List.rdropWhile_prefix drop _
  obtain ⟨rest, whole⟩ := kept
  have begins : c ∈ (text.dropWhile drop).head? := by
    rw [← whole, List.head?_append, Option.mem_def.mp head]
    rfl
  have stopped := List.head?_dropWhile_not drop text
  rw [Option.mem_def.mp begins] at stopped
  simpa using stopped

/-- A trimmed text does not begin with a blank. -/
theorem head?_trim (text : List Char) : ∀ c ∈ (trim text).head?, isBlank c = false :=
  head?_dropEndsWhile isBlank text

/-- A trimmed text does not end with a blank. -/
theorem getLast_trim {text : List Char} (nonempty : trim text ≠ []) :
    isBlank ((trim text).getLast nonempty) = false :=
  Bool.eq_false_iff.mpr
    (List.rdropWhile_last_not isBlank (text.dropWhile isBlank) nonempty)

/-- A text is trimmed to a word exactly if it holds this word and no other one. -/
theorem trim_eq_iff_words
    {word : List Char}
    (nonempty : word ≠ [])
    (solid : Solid word)
    (text : List Char) :
    trim text = word ↔ words text = [word] := by
  constructor
  · intro trimmed
    rw [← words_trim, trimmed, words_of_solid nonempty solid]
  · intro single
    rw [← words_trim] at single
    have filled : trim text ≠ [] := by
      intro empty
      rw [empty, words_nil] at single
      cases single
    obtain ⟨first, rest, whole, filledFirst, solidFirst, breaks⟩ :=
      exists_word_of_head filled (head?_trim text)
    rw [whole, words_append_of_breaks filledFirst solidFirst breaks] at single
    obtain ⟨rfl, wordless⟩ := List.cons.inj single
    have nothing : rest = [] := by
      by_contra more
      have last := getLast_trim filled
      simp only [whole, List.getLast_append_of_ne_nil _ more] at last
      rw [blank_of_words_eq_nil wordless _ (List.getLast_mem more)] at last
      cases last
    rw [whole, nothing, List.append_nil]

/-! ## Expanded tabs -/

/-- A tab advances by at least one column, so that it separates words as
the blanks in its place do.  The induction is on the text behind some front
that is already expanded. -/
theorem words_append_expandTabsFrom
    {size : Nat}
    (positive : 0 < size)
    (column : Nat)
    (front text : List Char) :
    words (front ++ expandTabsFrom size column text) = words (front ++ text) := by
  induction text generalizing column front with
  | nil => rfl
  | cons c rest inductionHypothesis =>
      have onward (column : Nat) :
          words (front ++ c :: expandTabsFrom size column rest) =
            words (front ++ c :: rest) := by
        have shifted := inductionHypothesis column (front ++ [c])
        rwa [List.append_assoc, List.append_assoc] at shifted
      rw [expandTabsFrom]
      split_ifs with tab breaks
      · obtain ⟨more, columns⟩ : ∃ more, size - column % size = more + 1 :=
          Nat.exists_eq_add_one.mpr (Nat.sub_pos_of_lt (Nat.mod_lt column positive))
        have behind := inductionHypothesis (column + (more + 1)) []
        rw [List.nil_append, List.nil_append] at behind
        subst tab
        dsimp only
        rw [columns, List.replicate_succ, List.cons_append,
          words_append_blank (by decide), words_append_of_blank (by simp [isBlank]),
          behind, words_append_blank (by decide)]
      · exact onward 0
      · exact onward (column + 1)

/-- Expanding the tabs of a text changes no word of it. -/
theorem words_expandTabs {size : Nat} (positive : 0 < size) (text : List Char) :
    words (expandTabs size text) = words text :=
  words_append_expandTabsFrom positive 0 [] text

end Text
end KernelInventory
