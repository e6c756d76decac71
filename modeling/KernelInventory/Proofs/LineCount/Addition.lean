import KernelInventory.Code.LineCount
import Mathlib

/-!
# Adding up line counts

Counts are added number by number, so that their order does not matter.  The statistics
of counts hold, for every category, the sum of the counts of that category.
-/

namespace KernelInventory

attribute [ext] LineCount

namespace LineCount

instance : Zero LineCount := ⟨{}⟩

section Numbers

variable (left right : LineCount)

@[simp] theorem files_zero : (0 : LineCount).files = 0 := rfl

@[simp] theorem blank_zero : (0 : LineCount).blank = 0 := rfl

@[simp] theorem comment_zero : (0 : LineCount).comment = 0 := rfl

@[simp] theorem code_zero : (0 : LineCount).code = 0 := rfl

@[simp] theorem files_add : (left + right).files = left.files + right.files := rfl

@[simp] theorem blank_add : (left + right).blank = left.blank + right.blank := rfl

@[simp] theorem comment_add : (left + right).comment = left.comment + right.comment :=
    rfl

@[simp] theorem code_add : (left + right).code = left.code + right.code := rfl

end Numbers

instance : AddCommMonoid LineCount where
  add_assoc first second third := by ext <;> simp [add_assoc]
  zero_add count := by ext <;> simp
  add_zero count := by ext <;> simp
  add_comm left right := by ext <;> simp [add_comm]
  nsmul := nsmulRec

end LineCount

namespace LineStatistics

/-- The count of a category, nothing where it does not occur. -/
def countOf (statistics : LineStatistics) (type : FileType) : LineCount :=
  (statistics.lookup type).getD 0

/-- The sum of the counts of a category. -/
def sumOf (counts : List (FileType × LineCount)) (type : FileType) : LineCount :=
  ((counts.filter fun entry => entry.1 = type).map Prod.snd).sum

section Sums

variable {first second : List (FileType × LineCount)} {type : FileType}

theorem sumOf_cons (category : FileType) (count : LineCount) :
    sumOf ((category, count) :: first) type =
      (if category = type then count else 0) + sumOf first type := by
  unfold sumOf
  by_cases same : category = type <;> simp [same]

theorem sumOf_append :
    sumOf (first ++ second) type = sumOf first type + sumOf second type := by
  simp [sumOf]

theorem sumOf_flatMap {α : Type} (members : List α)
    (each : α → List (FileType × LineCount)) :
    sumOf (members.flatMap each) type =
      (members.map fun member => sumOf (each member) type).sum := by
  induction members with
  | nil => rfl
  | cons member rest inductionHypothesis =>
      rw [List.flatMap_cons, sumOf_append, inductionHypothesis, List.map_cons,
        List.sum_cons]

theorem sumOf_perm (perm : first.Perm second) : sumOf first type = sumOf second type :=
  ((perm.filter _).map Prod.snd).sum_eq

end Sums

theorem countOf_cons (category type : FileType) (sum : LineCount)
    (rest : LineStatistics) :
    countOf ((category, sum) :: rest) type =
      if category = type then sum else countOf rest type := by
  unfold countOf
  by_cases same : category = type
  · subst same
    simp
  · simp [same, List.lookup_cons, beq_false_of_ne (Ne.symm same)]

theorem countOf_add
    (statistics : LineStatistics) (category type : FileType) (count : LineCount) :
    countOf (statistics.add category count) type =
      countOf statistics type + if category = type then count else 0 := by
  induction statistics with
  | nil =>
      rw [add, countOf_cons]
      split <;> simp [countOf]
  | cons entry rest inductionHypothesis =>
      obtain ⟨first, sum⟩ := entry
      rw [add]
      by_cases known : first = category
      · rw [if_pos known, countOf_cons, countOf_cons, ← known]
        split <;> simp
      · rw [if_neg known, countOf_cons, countOf_cons, inductionHypothesis]
        split
        next same => simp [same ▸ Ne.symm known]
        · rfl

/-- For every category, the statistics of counts hold the sum of its counts. -/
theorem countOf_ofCounts (counts : List (FileType × LineCount)) (type : FileType) :
    countOf (ofCounts counts) type = sumOf counts type := by
  have onward : ∀ statistics : LineStatistics,
      countOf (counts.foldl (fun statistics entry => add statistics entry.1 entry.2)
        statistics) type =
        countOf statistics type + sumOf counts type := by
    induction counts with
    | nil => exact fun statistics => (add_zero _).symm
    | cons entry rest inductionHypothesis =>
        intro statistics
        rw [List.foldl_cons, inductionHypothesis, countOf_add, sumOf_cons, add_assoc]
  exact (onward []).trans (zero_add _)

end LineStatistics
end KernelInventory
