import KernelInventory.Proofs.Stanza.Reading

/-!
# Files without help

To skip the help of a file is to read what is left of the file when its comments and
its help have been deleted.  Which lines are help is what the reader of help says that
goes through all lines but the comments and the blank ones; its indentations are all
that a skipped line changes.
-/

namespace KernelInventory
namespace Stanza

/-- What is left of lines without comments and help, for a reader of help that has seen
the lines before them. -/
def prunedFrom (help : State) : List (List Char) → List (List Char)
  | [] => []
  | raw :: rest =>
    if (Text.trim raw).head? = some '#' then prunedFrom help rest
    else if (Text.trim raw).isEmpty then raw :: prunedFrom help rest
    else
      match skipHelp help raw with
      | (next, true) => prunedFrom next rest
      | (next, false) => raw :: prunedFrom next rest

/-- The lines of a file without its comments and its help. -/
def pruned (lines : List (List Char)) : List (List Char) :=
  prunedFrom {} lines

theorem prunedFrom_sublist (help : State) (lines : List (List Char)) :
    (prunedFrom help lines).Sublist lines := by
  fun_induction prunedFrom help lines with
  | case1 => exact List.Sublist.slnil
  | case2 help raw rest _ inductionHypothesis => exact inductionHypothesis.cons raw
  | case3 help raw rest _ _ inductionHypothesis =>
      exact inductionHypothesis.cons_cons raw
  | case4 help raw rest _ _ next _ inductionHypothesis =>
      exact inductionHypothesis.cons raw
  | case5 help raw rest _ _ next _ inductionHypothesis =>
      exact inductionHypothesis.cons_cons raw

/-- Reading a line looks at the indentations of help only to skip it. -/
theorem readRaw_false_withHelp (state help : State) (raw : List Char) :
    readRaw false (state.withHelp help) raw =
      ((readRaw false state raw).1.withHelp help, (readRaw false state raw).2) := by
  simp only [readRaw, Bool.false_eq_true, if_false, readLine_eq]
  split_ifs <;> rfl

/-- A line that is neither a comment nor blank is skipped if the reader of help says so,
and else read as if help were not skipped. -/
theorem readRaw_true_withHelp
    {raw : List Char}
    (noComment : (Text.trim raw).head? ≠ some '#')
    (notBlank : ¬ (Text.trim raw).isEmpty = true)
    (state help : State) :
    readRaw true (state.withHelp help) raw =
      if (skipHelp help raw).2 then (state.withHelp (skipHelp help raw).1, none)
      else readRaw false (state.withHelp (skipHelp help raw).1) raw := by
  unfold readRaw
  simp only [if_neg noComment, if_neg notBlank, skipHelp_withHelp, if_true,
    Bool.false_eq_true, if_false]

theorem entriesFrom_prunedFrom (state help other : State) (lines : List (List Char)) :
    entriesFrom true (state.withHelp help) lines =
      entriesFrom false (state.withHelp other) (prunedFrom help lines) := by
  fun_induction prunedFrom help lines generalizing state with
  | case1 => rfl
  | case2 help raw rest comment inductionHypothesis =>
      rw [entriesFrom, readRaw, if_pos comment]
      exact inductionHypothesis state
  | case3 help raw rest noComment blank inductionHypothesis =>
      simp only [entriesFrom, readRaw, if_neg noComment, if_pos blank]
      exact inductionHypothesis { state with afterBlank := true }
  | case4 help raw rest noComment notBlank next skipped inductionHypothesis =>
      rw [entriesFrom, readRaw_true_withHelp noComment notBlank, skipped, if_pos rfl]
      exact inductionHypothesis state
  | case5 help raw rest noComment notBlank next read inductionHypothesis =>
      rw [entriesFrom, entriesFrom, readRaw_true_withHelp noComment notBlank, read,
        if_neg Bool.false_ne_true, readRaw_false_withHelp, readRaw_false_withHelp]
      exact congrArg (_ ++ ·) (inductionHypothesis (readRaw false state raw).1)

/-- The entries of a file whose help is skipped are those of what is left without it. -/
theorem entries_pruned (lines : List (List Char)) :
    entries true lines = entries false (pruned lines) :=
  entriesFrom_prunedFrom {} {} {} lines

end Stanza
end KernelInventory
