import KernelInventory.Suggestion.Similarity
import Mathlib.Data.List.Basic

/-!
# Similarity and edits

The rows of lengths are those of the longest common subsequences, beginning by
beginning.  Such a length gives the least number of characters that must be put in and
taken out to make one text of the other.
-/

namespace KernelInventory
namespace Similarity

/-! ## Longest common subsequences -/

/-- A number is the length of the longest common subsequences of two texts. -/
structure IsCommonLength (left right : List Char) (length : Nat) : Prop where
  attained : ∃ common : List Char,
    common.Sublist left ∧ common.Sublist right ∧ common.length = length
  greatest : ∀ common : List Char,
    common.Sublist left → common.Sublist right → common.length ≤ length

theorem isCommonLength_nil_left (right : List Char) : IsCommonLength [] right 0 where
  attained := ⟨[], List.Sublist.refl _, List.nil_sublist _, rfl⟩
  greatest _ inLeft _ := List.length_nil ▸ inLeft.length_le

theorem isCommonLength_nil_right (left : List Char) : IsCommonLength left [] 0 where
  attained := ⟨[], List.nil_sublist _, List.Sublist.refl _, rfl⟩
  greatest _ _ inRight := List.length_nil ▸ inRight.length_le

section Extension

variable {left right common : List Char} {c d : Char} {length up back : Nat}

/-- A subsequence of a text with one more character may end in that character. -/
theorem sublist_concat_iff :
    common.Sublist (left ++ [c]) ↔
      common.Sublist left ∨ ∃ front : List Char, common = front ++ [c] ∧
        front.Sublist left := by
  rw [List.sublist_append_iff]
  constructor
  · rintro ⟨front, last, rfl, inLeft, isLast⟩
    rcases List.sublist_singleton.mp isLast with rfl | rfl
    · exact Or.inl ((List.append_nil front).symm ▸ inLeft)
    · exact Or.inr ⟨front, rfl, inLeft⟩
  · rintro (inLeft | ⟨front, rfl, inLeft⟩)
    · exact ⟨common, [], (List.append_nil common).symm, inLeft, List.nil_sublist _⟩
    · exact ⟨front, [c], rfl, inLeft, List.Sublist.refl _⟩

theorem dropLast_sublist_of_concat
    (within : common.Sublist (left ++ [c])) :
    common.dropLast.Sublist left := by
  rcases sublist_concat_iff.mp within with inLeft | ⟨front, rfl, inLeft⟩
  · exact (List.dropLast_sublist common).trans inLeft
  · rwa [List.dropLast_concat]

/-- A character that both texts go on with makes the longest common
subsequences longer by one. -/
theorem IsCommonLength.concat_same
    (corner : IsCommonLength left right length) :
    IsCommonLength (left ++ [c]) (right ++ [c]) (length + 1) where
  attained := by
    obtain ⟨common, inLeft, inRight, rfl⟩ := corner.attained
    exact ⟨common ++ [c], inLeft.append (List.Sublist.refl _),
      inRight.append (List.Sublist.refl _), List.length_append⟩
  greatest common inLeft inRight := by
    have shorter := corner.greatest common.dropLast (dropLast_sublist_of_concat inLeft)
      (dropLast_sublist_of_concat inRight)
    rw [List.length_dropLast] at shorter
    omega

/-- Of two different characters that the texts go on with, a common
subsequence leaves out one. -/
theorem IsCommonLength.concat_different
    (different : c ≠ d)
    (above : IsCommonLength left (right ++ [d]) up)
    (before : IsCommonLength (left ++ [c]) right back) :
    IsCommonLength (left ++ [c]) (right ++ [d]) (max up back) where
  attained := by
    rcases Nat.le_total back up with larger | larger
    · obtain ⟨common, inLeft, inRight, rfl⟩ := above.attained
      exact ⟨common, inLeft.trans (List.sublist_append_left _ _), inRight,
        (Nat.max_eq_left larger).symm⟩
    · obtain ⟨common, inLeft, inRight, rfl⟩ := before.attained
      exact ⟨common, inLeft, inRight.trans (List.sublist_append_left _ _),
        (Nat.max_eq_right larger).symm⟩
  greatest common inLeft inRight := by
    rcases sublist_concat_iff.mp inLeft with short | ⟨front, rfl, -⟩
    · exact Nat.le_trans (above.greatest common short inRight) (Nat.le_max_left _ _)
    · rcases sublist_concat_iff.mp inRight with short | ⟨other, same, -⟩
      · exact Nat.le_trans (before.greatest _ inLeft short) (Nat.le_max_right _ _)
      · exact absurd (List.append_inj' same rfl).2 (by simpa using different)

end Extension

/-! ## Rows of lengths -/

/-- The lengths with a text, for the beginnings of a text that go beyond
what has been seen of it. -/
inductive Row (left : List Char) : List Char → List Char → List Nat → Prop
  /-- Nothing is left of the text. -/
  | done (seen : List Char) : Row left seen [] []
  /-- The next beginning is longer by one character. -/
  | next {seen rest : List Char} {d : Char} {length : Nat} {lengths : List Nat}
      (here : IsCommonLength left (seen ++ [d]) length)
      (further : Row left (seen ++ [d]) rest lengths) :
      Row left seen (d :: rest) (length :: lengths)

theorem row_nil (seen right : List Char) :
    Row [] seen right (right.map fun _ => 0) := by
  induction right generalizing seen with
  | nil => exact Row.done seen
  | cons d rest inductionHypothesis =>
      exact Row.next (isCommonLength_nil_left _) (inductionHypothesis _)

/-- The row below a row is the one for the text with one more character. -/
theorem Row.nextRow
    {left seen right : List Char} {c : Char} {corner back : Nat} {above : List Nat}
    (row : Row left seen right above)
    (atCorner : IsCommonLength left seen corner)
    (before : IsCommonLength (left ++ [c]) seen back) :
    Row (left ++ [c]) seen right (Similarity.nextRow c corner back right above) := by
  induction row generalizing corner back with
  | done seen => exact Row.done seen
  | @next seen rest d up lengths here _ inductionHypothesis =>
      have length : IsCommonLength (left ++ [c]) (seen ++ [d])
          (if c = d then corner + 1 else max up back) := by
        split
        next same =>
          exact same ▸ atCorner.concat_same
        next different =>
          exact IsCommonLength.concat_different different here before
      exact Row.next length (inductionHypothesis here length)

theorem row_lastRow (left right : List Char) :
    Row left [] right (lastRow left right) := by
  have onward : ∀ (taken : List Char) (above : List Nat), Row taken [] right above →
      Row (taken ++ left) [] right
        (left.foldl (fun above c => Similarity.nextRow c 0 0 right above) above) := by
    induction left with
    | nil =>
        intro taken above row
        rwa [List.append_nil]
    | cons c rest inductionHypothesis =>
        intro taken above row
        have below := row.nextRow (isCommonLength_nil_right taken)
          (isCommonLength_nil_right (taken ++ [c]))
        simpa using inductionHypothesis (taken ++ [c]) _ below
  exact onward [] _ (row_nil [] right)

theorem Row.getLast
    {left seen right : List Char} {lengths : List Nat} {start : Nat}
    (row : Row left seen right lengths)
    (atStart : IsCommonLength left seen start) :
    IsCommonLength left (seen ++ right) (lengths.getLast?.getD start) := by
  induction row generalizing start with
  | done seen => simpa using atStart
  | next here _ inductionHypothesis =>
      simpa [List.getLast?_cons] using inductionHypothesis here

/-- The common length is that of the longest common subsequences. -/
theorem isCommonLength_commonLength (left right : List Char) :
    IsCommonLength left right (commonLength left right) :=
  (row_lastRow left right).getLast (isCommonLength_nil_right left)

/-! ## Edits -/

/-- One text is made of another by putting in and taking out a number of characters. -/
inductive Edits : List Char → List Char → Nat → Prop
  /-- Nothing is left to be done. -/
  | done : Edits [] [] 0
  /-- A character stays. -/
  | keep (c : Char) {left right : List Char} {count : Nat} :
      Edits left right count → Edits (c :: left) (c :: right) count
  /-- A character is taken out. -/
  | takeOut (c : Char) {left right : List Char} {count : Nat} :
      Edits left right count → Edits (c :: left) right (count + 1)
  /-- A character is put in. -/
  | putIn (c : Char) {left right : List Char} {count : Nat} :
      Edits left right count → Edits left (c :: right) (count + 1)

/-- The characters that stay are a common subsequence, and all others
are taken out or put in. -/
theorem Edits.exists_common
    {left right : List Char} {count : Nat}
    (edits : Edits left right count) :
    ∃ common : List Char, common.Sublist left ∧ common.Sublist right ∧
      count + 2 * common.length = left.length + right.length := by
  induction edits with
  | done => exact ⟨[], List.Sublist.refl _, List.Sublist.refl _, rfl⟩
  | keep c _ inductionHypothesis =>
      obtain ⟨common, inLeft, inRight, counted⟩ := inductionHypothesis
      refine ⟨c :: common, inLeft.cons_cons c, inRight.cons_cons c, ?_⟩
      simp only [List.length_cons]
      omega
  | takeOut c _ inductionHypothesis =>
      obtain ⟨common, inLeft, inRight, counted⟩ := inductionHypothesis
      refine ⟨common, inLeft.cons c, inRight, ?_⟩
      simp only [List.length_cons]
      omega
  | putIn c _ inductionHypothesis =>
      obtain ⟨common, inLeft, inRight, counted⟩ := inductionHypothesis
      refine ⟨common, inLeft, inRight.cons c, ?_⟩
      simp only [List.length_cons]
      omega

/-- Everything but a subsequence can be taken out, and everything but it put in. -/
theorem exists_edits_of_sublist
    {common left right : List Char}
    (inLeft : common.Sublist left)
    (inRight : common.Sublist right) :
    ∃ count, Edits left right count ∧
      count + 2 * common.length = left.length + right.length := by
  induction inLeft generalizing right with
  | slnil =>
      clear inRight
      induction right with
      | nil => exact ⟨0, Edits.done, rfl⟩
      | cons d rest inductionHypothesis =>
          obtain ⟨count, edits, counted⟩ := inductionHypothesis
          refine ⟨count + 1, edits.putIn d, ?_⟩
          simp only [List.length_cons] at counted ⊢
          omega
  | cons c _ inductionHypothesis =>
      obtain ⟨count, edits, counted⟩ := inductionHypothesis inRight
      refine ⟨count + 1, edits.takeOut c, ?_⟩
      simp only [List.length_cons]
      omega
  | @cons_cons common left c inLeft inductionHypothesis =>
      generalize whole : c :: common = kept at inRight
      induction inRight with
      | slnil => cases whole
      | cons d _ inner =>
          obtain ⟨count, edits, counted⟩ := inner whole
          refine ⟨count + 1, edits.putIn d, ?_⟩
          simp only [List.length_cons] at counted ⊢
          omega
      | cons_cons d inRight _ =>
          obtain ⟨rfl, rfl⟩ := List.cons.inj whole
          obtain ⟨count, edits, counted⟩ := inductionHypothesis inRight
          refine ⟨count, edits.keep c, ?_⟩
          simp only [List.length_cons]
          omega

/-- The least number of edits. -/
def distance (left right : List Char) : Nat :=
  left.length + right.length - 2 * commonLength left right

theorem distance_add (left right : List Char) :
    distance left right + 2 * commonLength left right = left.length + right.length := by
  obtain ⟨common, inLeft, inRight, same⟩ :=
    (isCommonLength_commonLength left right).attained
  have first := inLeft.length_le
  have second := inRight.length_le
  unfold distance
  omega

/-- As many characters must be put in and taken out as the texts have together, but
those of a longest common subsequence in both. -/
theorem isLeast_distance (left right : List Char) :
    Edits left right (distance left right) ∧
      ∀ count, Edits left right count → distance left right ≤ count := by
  have total := distance_add left right
  obtain ⟨⟨common, inLeft, inRight, same⟩, greatest⟩ :=
    isCommonLength_commonLength left right
  constructor
  · obtain ⟨count, edits, counted⟩ := exists_edits_of_sublist inLeft inRight
    have exact : count = distance left right := by omega
    exact exact ▸ edits
  · intro count edits
    obtain ⟨other, inLeft, inRight, counted⟩ := edits.exists_common
    have shorter := greatest other inLeft inRight
    omega

end Similarity
end KernelInventory
