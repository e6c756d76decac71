import KernelInventory.Proofs.Suggestion.Edits
import KernelInventory.Suggestion.Basic
import Mathlib

/-!
# The best suggestions

Candidates are ranked by their similarity to a name and then by their own text, which is
a linear order of all texts.  The suggestions are the first ones in it of those that are
similar enough, however the candidates are given.
-/

namespace KernelInventory

namespace Similarity

/-- The number that a fraction stands for. -/
def Ratio.value (fraction : Ratio) : ℚ :=
  fraction.numerator / fraction.denominator

theorem Ratio.atLeast_iff
    {left right : Ratio}
    (leftPositive : 0 < left.denominator)
    (rightPositive : 0 < right.denominator) :
    left.atLeast right = true ↔ right.value ≤ left.value := by
  rw [atLeast, decide_eq_true_iff, value, value,
    div_le_div_iff₀ (by exact_mod_cast rightPositive) (by exact_mod_cast leftPositive)]
  norm_cast

theorem denominator_ratio_pos (left right : List Char) :
    0 < (ratio left right).denominator := by
  unfold ratio
  dsimp only
  split
  · exact Nat.one_pos
  next nonempty => exact Nat.pos_of_ne_zero nonempty

/-- The similarity of two texts is what the least number of edits leaves of one,
measured against the length of both together. -/
theorem value_ratio (left right : List Char) :
    (ratio left right).value =
      if left.length + right.length = 0 then 1
      else 1 - (distance left right : ℚ) /
        ((left.length + right.length : Nat) : ℚ) := by
  have total := distance_add left right
  unfold ratio
  dsimp only
  split
  · simp [Ratio.value]
  next nonempty =>
    have positive : ((left.length + right.length : Nat) : ℚ) ≠ 0 := by
      exact_mod_cast nonempty
    rw [Ratio.value, eq_sub_iff_add_eq, ← add_div, div_eq_one_iff_eq positive, ← total]
    push_cast
    ring

end Similarity

namespace Suggestion

open Similarity

/-! ## Ranks -/

/-- How similar a candidate is to a name, case apart. -/
def similarity (name candidate : String) : ℚ :=
  (score name candidate).value

/-- Whether a candidate comes no later than another: it is more similar to the name, or
as similar and not larger by code points. -/
def Precedes (name left right : String) : Prop :=
  similarity name right < similarity name left ∨
    similarity name left = similarity name right ∧ left ≤ right

instance (name : String) : DecidableRel (Precedes name) :=
  fun left right => inferInstanceAs (Decidable (_ ∨ _ ∧ left ≤ right))

/-- The place of a candidate in the order of similarity and then of texts. -/
def rank (name candidate : String) : ℚᵒᵈ ×ₗ String :=
  toLex (OrderDual.toDual (similarity name candidate), candidate)

theorem rank_injective (name : String) : Function.Injective (rank name) :=
  fun _ _ same => (Prod.ext_iff.mp (toLex.injective same)).2

theorem precedes_iff_rank_le {name left right : String} :
    Precedes name left right ↔ rank name left ≤ rank name right := by
  rw [rank, rank, Prod.Lex.toLex_le_toLex, OrderDual.toDual_lt_toDual,
    OrderDual.toDual_inj]
  rfl

instance (name : String) : Std.Total (Precedes name) where
  total left right := by
    simpa only [precedes_iff_rank_le] using le_total (rank name left) (rank name right)

instance (name : String) : IsTrans String (Precedes name) where
  trans left middle right := by
    simpa only [precedes_iff_rank_le] using le_trans

instance (name : String) : Std.Antisymm (Precedes name) where
  antisymm left right first second := by
    rw [precedes_iff_rank_le] at first second
    exact rank_injective name (le_antisymm first second)

theorem comesFirst_eq (name left right : String) :
    comesFirst (score name left, left) (score name right, right) =
      decide (Precedes name left right) := by
  have positive : ∀ candidate, 0 < (score name candidate).denominator :=
    fun _ => denominator_ratio_pos _ _
  have atLeast : ∀ first second : String,
      (score name first).atLeast (score name second) = true ↔
        similarity name second ≤ similarity name first :=
    fun first second => Ratio.atLeast_iff (positive first) (positive second)
  rw [Bool.eq_iff_iff, decide_eq_true_iff, Precedes, comesFirst]
  dsimp only
  split
  next larger =>
    rw [atLeast] at larger
    split
    next smaller =>
      rw [atLeast] at smaller
      simp [le_antisymm smaller larger]
    next different =>
      rw [atLeast, not_le] at different
      simp [different]
  next smaller =>
    rw [atLeast, not_le] at smaller
    simp [smaller.not_gt, smaller.ne]

/-! ## Suggestions -/

/-- Whether a candidate is similar enough to be suggested. -/
def Close (name candidate : String) : Prop :=
  3 / 5 ≤ similarity name candidate

instance (name : String) : DecidablePred (Close name) :=
  fun candidate => inferInstanceAs (Decidable (3 / 5 ≤ similarity name candidate))

theorem atLeast_cutoff (name candidate : String) :
    (score name candidate).atLeast cutoff = decide (Close name candidate) := by
  have same : cutoff.value = 3 / 5 := rfl
  rw [Bool.eq_iff_iff, decide_eq_true_iff, Close, ← same]
  exact Ratio.atLeast_iff (denominator_ratio_pos _ _) (by decide)

/-- The candidates that are similar enough, the best ones first. -/
def ranked (name : String) (candidates : List String) : List String :=
  (candidates.filter (Close name)).mergeSort (Precedes name · ·)

/-- The suggestions are the first ones of the ranked candidates. -/
theorem names_eq (name : String) (candidates : List String) :
    names name candidates = (ranked name candidates).take limit := by
  have filtered :
      (candidates.map fun candidate => (score name candidate, candidate)).filter
        (fun entry => entry.1.atLeast cutoff) =
      (candidates.filter (Close name)).map fun candidate =>
        (score name candidate, candidate) := by
    rw [List.filter_map]
    exact congrArg (List.map _) (List.filter_congr fun candidate _ =>
      atLeast_cutoff name candidate)
  unfold names ranked
  dsimp only
  rw [filtered, ← List.map_mergeSort fun left _ right _ =>
    (comesFirst_eq name left right).symm, List.map_take, List.map_map]
  exact congrArg (List.take limit) (List.map_id' _)

/-- What is suggested is one of the candidates. -/
theorem names_subset (name : String) (candidates : List String) :
    names name candidates ⊆ candidates := by
  intro suggested member
  rw [names_eq] at member
  have close := List.mem_of_mem_take member
  rw [ranked, List.mem_mergeSort] at close
  exact (List.mem_filter.mp close).1

section Ranked

variable (name : String) (candidates : List String)

theorem ranked_perm : (candidates.filter (Close name)).Perm (ranked name candidates) :=
  (List.mergeSort_perm _ _).symm

theorem pairwise_ranked : (ranked name candidates).Pairwise (Precedes name) :=
  List.pairwise_mergeSort' (Precedes name) _

/-- The order in which candidates are given does not matter. -/
theorem ranked_congr {candidates permuted : List String}
    (perm : candidates.Perm permuted) :
    ranked name candidates = ranked name permuted := by
  have same : (ranked name candidates).Perm (ranked name permuted) :=
    (ranked_perm name candidates).symm.trans
      ((perm.filter _).trans (ranked_perm name permuted))
  exact same.eq_of_pairwise' (pairwise_ranked name candidates)
    (pairwise_ranked name permuted)

end Ranked

/-- The suggestions are at most three of the candidates, in their order of similarity,
and are similar enough.  Of the other candidates that are, each comes after all that are
suggested, and there are such only if three are suggested.  The order in which the
candidates are given does not matter.  The similarity is what the least number of edits
leaves of one, measured against the length of both texts in upper case. -/
theorem suggestions_are_best (name : String) (candidates : List String) :
    (∀ candidate, ∃ count : Nat,
      IsLeast {count | Edits (Text.upper name.toList) (Text.upper candidate.toList)
        count} count ∧
        similarity name candidate =
          if (Text.upper name.toList).length + (Text.upper candidate.toList).length =
            0 then 1
          else 1 - (count : ℚ) /
            ((Text.upper name.toList).length + (Text.upper candidate.toList).length :
              Nat)) ∧
      (names name candidates).length ≤ 3 ∧
      (∀ suggested ∈ names name candidates, 3 / 5 ≤ similarity name suggested) ∧
      (names name candidates).Pairwise (Precedes name) ∧
      (∃ others,
        (candidates.filter fun candidate => 3 / 5 ≤ similarity name candidate).Perm
            (names name candidates ++ others) ∧
          (∀ suggested ∈ names name candidates, ∀ other ∈ others,
            Precedes name suggested other) ∧
          (others ≠ [] → (names name candidates).length = 3)) ∧
      ∀ permuted, candidates.Perm permuted →
        names name permuted = names name candidates := by
  have inOrder := pairwise_ranked name candidates
  have perm := ranked_perm name candidates
  rw [← List.take_append_drop limit (ranked name candidates),
    List.pairwise_append] at inOrder
  obtain ⟨first, -, apart⟩ := inOrder
  rw [names_eq]
  refine ⟨?_, List.length_take_le _ _, ?_, first,
    ⟨(ranked name candidates).drop limit, ?_, apart, ?_⟩, ?_⟩
  · intro candidate
    obtain ⟨edits, least⟩ :=
      isLeast_distance (Text.upper name.toList) (Text.upper candidate.toList)
    exact ⟨_, ⟨edits, least⟩, value_ratio _ _⟩
  · intro suggested member
    have close := perm.mem_iff.mpr (List.mem_of_mem_take member)
    exact of_decide_eq_true (List.mem_filter.mp close).2
  · rwa [List.take_append_drop]
  · intro remaining
    have longer := List.length_pos_of_ne_nil remaining
    rw [List.length_drop] at longer
    rw [List.length_take, min_eq_left (by omega)]
    rfl
  · intro permuted samePerm
    rw [names_eq, ranked_congr name samePerm]

end Suggestion
end KernelInventory
