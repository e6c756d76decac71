import KernelInventory.Stanza.Help
import KernelInventory.Proofs.Text.Words

/-!
# Help as a sequence of blocks

The reader of help remembers two indentations.  What it skips from line to line is
described here without them: a keyword opens a block, and the text of the block is the
longest run of lines that are indented at least as deep as the first of them, if that
one is indented deeper than the keyword. Outside of blocks no line is skipped.
-/

namespace KernelInventory
namespace Stanza

/-! ## Blocks -/

/-- The column at which the text of a raw line begins. -/
def column (raw : List Char) : Nat :=
  indentation (expandedLine raw)

/-- The text of the block that a keyword opens: the longest run of lines that are
indented at least as deep as the first of them, or nothing, if that one is not indented
deeper than the keyword. -/
def blockText (keyword : List Char) : List (List Char) → List (List Char)
  | [] => []
  | first :: rest =>
    if column keyword < column first then
      (first :: rest).takeWhile fun raw => column first ≤ column raw
    else []

/-- Which lines are help, block by block. -/
def helpMarks : List (List Char) → List Bool
  | [] => []
  | raw :: rest =>
    if opensHelp (Text.trim raw) then
      let text := blockText raw rest
      true :: (text.map fun _ => true) ++ helpMarks (rest.drop text.length)
    else
      false :: helpMarks rest
termination_by lines => lines.length
decreasing_by
  · simp only [List.length_drop, List.length_cons]
    omega
  · simp

/-! ## The reader of help -/

/-- Which lines a reader of help skips. -/
def skipMarks (help : State) : List (List Char) → List Bool
  | [] => []
  | raw :: rest => (skipHelp help raw).2 :: skipMarks (skipHelp help raw).1 rest

/-- A fresh reader of help behind some lines. -/
def helpAfter (past : List (List Char)) : State :=
  past.foldl (fun help raw => (skipHelp help raw).1) {}

/-- A reader of help right behind a keyword. -/
def behindKeyword (indent : Nat) : State :=
  { helpIndent := some indent }

/-- A reader of help in the text of a block. -/
def insideText (indent textIndent : Nat) : State :=
  { helpIndent := some indent, helpTextIndent := some textIndent }

/-- Neither the end of a line nor its tabs decide whether it opens a block. -/
theorem opensHelp_expandedLine (raw : List Char) :
    opensHelp (Text.trim (expandedLine raw)) = opensHelp (Text.trim raw) := by
  have words : Text.words (expandedLine raw) = Text.words raw := by
    rw [expandedLine, Text.words_expandTabs (by decide), Text.words_dropEndWhile]
    intro c ends
    simp only [Bool.or_eq_true, beq_iff_eq] at ends
    rcases ends with rfl | rfl
    · decide
    · decide
  have same : ∀ keyword ∈ ["help".toList, "---help---".toList],
      (Text.trim (expandedLine raw) == keyword) = (Text.trim raw == keyword) := by
    intro keyword member
    have nonempty : keyword ≠ [] := by
      rintro rfl
      exact absurd member (by decide)
    have solid : Text.Solid keyword :=
      (by decide : ∀ keyword ∈ ["help".toList, "---help---".toList], Text.Solid keyword)
        keyword member
    rw [Bool.eq_iff_iff, beq_iff_eq, beq_iff_eq, Text.trim_eq_iff_words nonempty solid,
      Text.trim_eq_iff_words nonempty solid, words]
  rw [opensHelp, opensHelp, same _ (by decide), same _ (by decide)]

section Line

variable (indent textIndent : Nat) (raw : List Char)

/-- Outside of blocks, a line is skipped if it opens one. -/
theorem skipHelp_outside :
    skipHelp {} raw =
      if opensHelp (Text.trim raw) then (behindKeyword (column raw), true)
      else ({}, false) := by
  rw [← opensHelp_expandedLine]
  rfl

/-- Behind a keyword, a line that is indented deeper begins the text of the block, and
every other line stands outside. -/
theorem skipHelp_behindKeyword :
    skipHelp (behindKeyword indent) raw =
      if indent < column raw then (insideText indent (column raw), true)
      else skipHelp {} raw := by
  by_cases deeper : indent < indentation (expandedLine raw)
  · simp [skipHelp, helpText?, behindKeyword, insideText, column, deeper]
  · simp [skipHelp, helpText?, behindKeyword, column, deeper]

/-- In the text of a block, a line that is indented less stands outside. -/
theorem skipHelp_insideText :
    skipHelp (insideText indent textIndent) raw =
      if textIndent ≤ column raw then (insideText indent textIndent, true)
      else skipHelp {} raw := by
  by_cases deep : textIndent ≤ indentation (expandedLine raw)
  · simp [skipHelp, helpText?, insideText, column, deep]
  · simp [skipHelp, helpText?, insideText, column, deep]

end Line

/-! ## From line to line -/

/-- Where a reader of help can be: outside of blocks, right behind a keyword, or in a
text that is indented deeper than its keyword. -/
inductive HelpPhase : State → Prop
  | outside : HelpPhase {}
  | keyword (indent : Nat) : HelpPhase (behindKeyword indent)
  | text {indent textIndent : Nat} (deeper : indent < textIndent) :
    HelpPhase (insideText indent textIndent)

/-- Outside of blocks, a line leads behind a keyword, or it is not
skipped and leads nowhere. -/
theorem HelpPhase.skipHelp_outside (raw : List Char) :
    HelpPhase (skipHelp {} raw).1 ∧
      ((skipHelp {} raw).2 = false → (skipHelp {} raw).1 = {}) := by
  rw [Stanza.skipHelp_outside]
  split
  · exact ⟨.keyword _, nofun⟩
  · exact ⟨.outside, fun _ => rfl⟩

/-- A line that is not skipped leads outside of blocks. -/
theorem HelpPhase.skipHelp {help : State} (phase : HelpPhase help) (raw : List Char) :
    HelpPhase (skipHelp help raw).1 ∧
      ((Stanza.skipHelp help raw).2 = false → (Stanza.skipHelp help raw).1 = {}) := by
  cases phase with
  | outside => exact HelpPhase.skipHelp_outside raw
  | keyword indent =>
      rw [skipHelp_behindKeyword]
      split
      next deeper => exact ⟨.text deeper, nofun⟩
      · exact HelpPhase.skipHelp_outside raw
  | text deeper =>
      rw [skipHelp_insideText]
      split
      · exact ⟨.text deeper, nofun⟩
      · exact HelpPhase.skipHelp_outside raw

theorem helpPhase_helpAfter (past : List (List Char)) : HelpPhase (helpAfter past) := by
  refine List.foldlRecOn past _ HelpPhase.outside ?_
  intro help phase raw _
  exact (phase.skipHelp raw).1

/-- In the text of a block, lines are skipped as long as they are
indented as deep as the text. -/
theorem skipMarks_insideText (indent textIndent : Nat) (lines : List (List Char)) :
    let text := lines.takeWhile fun raw => textIndent ≤ column raw
    skipMarks (insideText indent textIndent) lines =
      (text.map fun _ => true) ++ skipMarks {} (lines.drop text.length) := by
  induction lines with
  | nil => rfl
  | cons raw rest inductionHypothesis =>
      by_cases deep : textIndent ≤ column raw
      · rw [skipMarks, skipHelp_insideText, if_pos deep]
        dsimp only at inductionHypothesis ⊢
        rw [inductionHypothesis, List.takeWhile_cons_of_pos (by simpa using deep)]
        rfl
      · rw [skipMarks, skipHelp_insideText, if_neg deep]
        dsimp only
        rw [List.takeWhile_cons_of_neg (by simpa using deep)]
        rfl

/-- Behind a keyword, the text of its block is skipped, and what comes then is
outside. -/
theorem skipMarks_behindKeyword (keyword : List Char) (lines : List (List Char)) :
    skipMarks (behindKeyword (column keyword)) lines =
      ((blockText keyword lines).map fun _ => true) ++
        skipMarks {} (lines.drop (blockText keyword lines).length) := by
  cases lines with
  | nil => rfl
  | cons first rest =>
      rw [skipMarks, skipHelp_behindKeyword, blockText]
      split
      · have inside :=
          skipMarks_insideText (column keyword) (column first) (first :: rest)
        rwa [skipMarks, skipHelp_insideText, if_pos le_rfl] at inside
      · rfl

/-- A fresh reader of help skips the lines of the blocks and no others. -/
theorem skipMarks_eq_helpMarks (lines : List (List Char)) :
    skipMarks {} lines = helpMarks lines := by
  fun_induction helpMarks lines with
  | case1 => rfl
  | case2 raw rest opens text inductionHypothesis =>
      rw [skipMarks, skipHelp_outside, if_pos opens, ← inductionHypothesis]
      exact congrArg (true :: ·) (skipMarks_behindKeyword raw rest)
  | case3 raw rest closed inductionHypothesis =>
      rw [skipMarks, skipHelp_outside, if_neg closed, ← inductionHypothesis]

/-- A fresh reader of help skips exactly the lines of the blocks.  Behind a line that is
not skipped it remembers nothing, and the indentation of a text is remembered only with
a smaller one of its keyword. -/
theorem help_is_blocks (lines : List (List Char)) :
    skipMarks {} lines = helpMarks lines ∧
      ∀ past raw,
        ((skipHelp (helpAfter past) raw).2 = false →
            (helpAfter (past ++ [raw])).helpIndent = none ∧
              (helpAfter (past ++ [raw])).helpTextIndent = none) ∧
          ∀ textIndent, (helpAfter (past ++ [raw])).helpTextIndent = some textIndent →
            ∃ indent < textIndent, (helpAfter (past ++ [raw])).helpIndent =
              some indent := by
  refine ⟨skipMarks_eq_helpMarks lines, fun past raw => ⟨fun unskipped => ?_, ?_⟩⟩
  · have next : helpAfter (past ++ [raw]) = (skipHelp (helpAfter past) raw).1 := by
      rw [helpAfter, List.foldl_append]
      rfl
    rw [next, ((helpPhase_helpAfter past).skipHelp raw).2 unskipped]
    exact ⟨rfl, rfl⟩
  · have phase := helpPhase_helpAfter (past ++ [raw])
    generalize helpAfter (past ++ [raw]) = help at phase ⊢
    intro textIndent found
    cases phase with
    | outside | keyword _ => cases found
    | text deeper =>
        obtain rfl := Option.some.inj found
        exact ⟨_, deeper, rfl⟩

/-- The keyword in the text of the first block opens none, the line in column 4
ends it, and a keyword right behind a keyword of the same column leaves the block
of the first one empty. -/
example :
    helpMarks
        ["  help".toList, "\ttext".toList, "        help".toList, "    select A".toList,
          "---help---".toList, "help".toList, " text".toList] =
      [true, true, true, false, true, true, true] := by
  rw [← skipMarks_eq_helpMarks]
  rfl

end Stanza
end KernelInventory
