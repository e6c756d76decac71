import KernelInventory.Code.Guard
import KernelInventory.Proofs.Text.Search
import Mathlib.Data.List.TakeWhile

/-!
# What a line of code means for the nesting

The class of a line is found by a search from left to right.  Here it is
described by what the line contains: a guard is the word `#ifdef`, white space
and the macro of a component, the leftmost guard of a line counts, and only a
line without a guard can be an end.
-/

namespace KernelInventory
namespace Guard

/-- The text begins with a guard of a component: the word `#ifdef`, white space and a
macro, whose name extends as far as there are characters for it. -/
def GuardAt (text : List Char) (name : String) : Prop :=
  ∃ blanks rest,
    text = "#ifdef".toList ++ (blanks ++ ("CONFIG_".toList ++ (name.toList ++ rest))) ∧
      blanks ≠ [] ∧ (∀ c ∈ blanks, Text.isBlank c = true) ∧
      name.toList ≠ [] ∧ (∀ c ∈ name.toList, isNameCharacter c = true) ∧
      ∀ c ∈ rest.head?, isNameCharacter c = false

/-- The leftmost guard of a line is that of a component. -/
def OpensGuard (line : List Char) (name : String) : Prop :=
  ∃ before text,
    line = before ++ text ∧ GuardAt text name ∧
      ∀ earlier later other,
        line = earlier ++ later → GuardAt later other → before.length ≤ earlier.length

/-- What the class of a line says about it. -/
def Means (line : List Char) : LineClass → Prop
  | .opens name => OpensGuard line name
  | .closes => (∀ name, ¬OpensGuard line name) ∧ "#endif".toList <:+: line
  | .plain => (∀ name, ¬OpensGuard line name) ∧ ¬"#endif".toList <:+: line

private theorem takeWhile_eq_nil_of_head
    {holds : Char → Bool} {rest : List Char}
    (stops : ∀ c ∈ rest.head?, holds c = false) :
    rest.takeWhile holds = [] := by
  cases rest with
  | nil => rfl
  | cons c others => simp [stops c rfl]

private theorem head_dropWhile
    (holds : Char → Bool) (text : List Char) :
    ∀ c ∈ (text.dropWhile holds).head?, holds c = false := by
  intro c first
  have nonempty : text.dropWhile holds ≠ [] := by
    intro empty
    simp [empty] at first
  have stops := List.head_dropWhile_not holds nonempty
  rw [List.head?_eq_some_head nonempty] at first
  obtain rfl := Option.mem_some_iff.mp first
  exact stops

/-- A guard that is found at the beginning of a text stands there. -/
theorem guardAt_of_nameAt?
    {text : List Char} {name : String}
    (found : nameAt? text = some name) :
    GuardAt text name := by
  unfold nameAt? at found
  simp only [] at found
  split at found
  next wordStarts =>
    obtain ⟨behind, rfl⟩ := List.isPrefixOf_iff_prefix.mp wordStarts
    rw [List.drop_left] at found
    split at found
    next macroStarts =>
      obtain ⟨shorter, leadStarts⟩ := macroStarts
      obtain ⟨tail, tail_eq⟩ := List.isPrefixOf_iff_prefix.mp leadStarts
      rw [← tail_eq, List.drop_left] at found
      split at found
      · cases found
      next nameNonempty =>
        obtain rfl := Option.some.inj found
        have nameText : (String.ofList (tail.takeWhile isNameCharacter)).toList =
            tail.takeWhile isNameCharacter := String.toList_ofList
        rw [GuardAt, nameText]
        refine ⟨behind.takeWhile Text.isBlank, tail.dropWhile isNameCharacter, ?_, ?_,
          ?_, ?_, ?_, head_dropWhile isNameCharacter tail⟩
        · rw [List.takeWhile_append_dropWhile, tail_eq, Text.trimStart,
            List.takeWhile_append_dropWhile]
        · intro empty
          have whole :=
            List.takeWhile_append_dropWhile (p := Text.isBlank) (l := behind)
          rw [empty, List.nil_append] at whole
          rw [Text.trimStart, whole] at shorter
          exact Nat.lt_irrefl _ shorter
        · intro c member
          exact List.mem_takeWhile_imp member
        · simpa using nameNonempty
        · intro c member
          exact List.mem_takeWhile_imp member
    · cases found
  · cases found

/-- A guard at the beginning of a text is found. -/
theorem nameAt?_of_guardAt
    {text : List Char} {name : String}
    (guard : GuardAt text name) :
    nameAt? text = some name := by
  obtain ⟨blanks, rest, rfl, blanksNonempty, allBlank, nameNonempty, allName, stops⟩ :=
    guard
  have wordStarts : "#ifdef".toList.isPrefixOf
      ("#ifdef".toList ++ (blanks ++ ("CONFIG_".toList ++ (name.toList ++ rest)))) =
        true :=
    List.isPrefixOf_iff_prefix.mpr (List.prefix_append _ _)
  have leadStarts : "CONFIG_".toList.isPrefixOf
      ("CONFIG_".toList ++ (name.toList ++ rest)) = true :=
    List.isPrefixOf_iff_prefix.mpr (List.prefix_append _ _)
  have trimmed :
      Text.trimStart (blanks ++ ("CONFIG_".toList ++ (name.toList ++ rest))) =
      "CONFIG_".toList ++ (name.toList ++ rest) := by
    rw [Text.trimStart, List.dropWhile_append_of_pos allBlank]
    exact List.dropWhile_cons_of_neg (by decide)
  have shorter : ("CONFIG_".toList ++ (name.toList ++ rest)).length <
      (blanks ++ ("CONFIG_".toList ++ (name.toList ++ rest))).length := by
    have positive := List.length_pos_iff.mpr blanksNonempty
    simp only [List.length_append]
    omega
  have run : (name.toList ++ rest).takeWhile isNameCharacter = name.toList := by
    rw [List.takeWhile_append_of_pos allName, takeWhile_eq_nil_of_head stops,
      List.append_nil]
  unfold nameAt?
  simp only []
  rw [if_pos wordStarts, List.drop_left, trimmed, if_pos ⟨shorter, leadStarts⟩,
    List.drop_left, run, if_neg (by simpa [List.isEmpty_iff] using nameNonempty),
    String.ofList_toList]

/-- The search at the beginning of a text finds exactly the guard that stands there. -/
theorem nameAt?_eq_some_iff (text : List Char) (name : String) :
    nameAt? text = some name ↔ GuardAt text name :=
  ⟨guardAt_of_nameAt?, nameAt?_of_guardAt⟩

/-- No guard stands in the text of no characters. -/
theorem not_guardAt_nil (name : String) : ¬GuardAt [] name := by
  rintro ⟨blanks, rest, text_eq, -⟩
  simp at text_eq

/-- A guard at the beginning of a line is its leftmost one. -/
theorem opensGuard_of_guardAt
    {line : List Char} {name : String}
    (guard : GuardAt line name) :
    OpensGuard line name :=
  ⟨[], line, rfl, guard, fun _ _ _ _ _ => Nat.zero_le _⟩

/-- Behind a character at which no guard stands, the leftmost guard of a
line is that of the rest. -/
theorem opensGuard_cons_iff
    {c : Char} {rest : List Char} {name : String}
    (noGuard : ∀ other, ¬GuardAt (c :: rest) other) :
    OpensGuard (c :: rest) name ↔ OpensGuard rest name := by
  constructor
  · rintro ⟨before, text, line_eq, guard, leftmost⟩
    cases before with
    | nil =>
        obtain rfl : c :: rest = text := line_eq
        exact absurd guard (noGuard name)
    | cons first before =>
        obtain ⟨rfl, rest_eq⟩ := List.cons.inj line_eq
        refine ⟨before, text, rest_eq, guard, ?_⟩
        intro earlier later other split otherGuard
        have bound :=
          leftmost (c :: earlier) later other (by rw [split, List.cons_append])
            otherGuard
        simpa using bound
  · rintro ⟨before, text, rfl, guard, leftmost⟩
    refine ⟨c :: before, text, rfl, guard, ?_⟩
    intro earlier later other split otherGuard
    cases earlier with
    | nil =>
        obtain rfl : c :: (before ++ text) = later := split
        exact absurd otherGuard (noGuard other)
    | cons first earlier =>
        have bound := leftmost earlier later other (List.cons.inj split).2 otherGuard
        simpa using bound

/-- The search through a line finds exactly its leftmost guard. -/
theorem openedName?_eq_some_iff (line : List Char) (name : String) :
    openedName? line = some name ↔ OpensGuard line name := by
  induction line with
  | nil =>
      constructor
      · intro found
        cases found
      · rintro ⟨before, text, line_eq, guard, -⟩
        obtain ⟨-, rfl⟩ := List.append_eq_nil_iff.mp line_eq.symm
        exact absurd guard (not_guardAt_nil name)
  | cons c rest inductionHypothesis =>
      rw [openedName?]
      cases here : nameAt? (c :: rest) with
      | none =>
          have noGuard : ∀ other, ¬GuardAt (c :: rest) other := by
            intro other guard
            rw [(nameAt?_eq_some_iff _ _).mpr guard] at here
            cases here
          rw [opensGuard_cons_iff noGuard, ← inductionHypothesis]
          rfl
      | some first =>
          have guard := (nameAt?_eq_some_iff _ _).mp here
          constructor
          · intro found
            obtain rfl : first = name := Option.some.inj found
            exact opensGuard_of_guardAt guard
          · rintro ⟨before, text, line_eq, otherGuard, leftmost⟩
            have bound := leftmost [] (c :: rest) first rfl guard
            obtain rfl := List.eq_nil_of_length_eq_zero (Nat.le_zero.mp bound)
            obtain rfl : c :: rest = text := line_eq
            rw [(nameAt?_eq_some_iff _ _).mpr otherGuard] at here
            exact here.symm ▸ rfl

/-- A line without a guard is one in which the search finds none. -/
theorem openedName?_eq_none_iff (line : List Char) :
    openedName? line = none ↔ ∀ name, ¬OpensGuard line name := by
  rw [Option.eq_none_iff_forall_ne_some]
  exact forall_congr' fun name => not_congr (openedName?_eq_some_iff line name)

/-- The class of a line is the only one that says the truth about it. -/
theorem classify_eq_iff (line : List Char) (lineClass : LineClass) :
    classify line = lineClass ↔ Means line lineClass := by
  have endsIff := Text.contains_iff_isInfix line "#endif".toList
  cases found : openedName? line with
  | some name =>
      have opensHere := (openedName?_eq_some_iff line name).mp found
      have computed : classify line = .opens name := by simp [classify, found]
      rw [computed]
      cases lineClass with
      | opens other =>
          rw [LineClass.opens.injEq, Means, ← openedName?_eq_some_iff, found,
            Option.some.injEq]
      | closes => simpa [Means] using fun noGuard => absurd opensHere (noGuard name)
      | plain => simpa [Means] using fun noGuard => absurd opensHere (noGuard name)
  | none =>
      have noGuard := (openedName?_eq_none_iff line).mp found
      by_cases ends : Text.contains line "#endif".toList = true
      · have computed : classify line = .closes := by
          rw [classify, found]
          exact if_pos ends
        rw [computed]
        cases lineClass with
        | opens other => simpa [Means] using noGuard other
        | closes => simpa [Means, noGuard] using endsIff.mp ends
        | plain => simpa [Means, noGuard] using endsIff.mp ends
      · have computed : classify line = .plain := by
          rw [classify, found]
          exact if_neg ends
        have noEnd := mt endsIff.mpr ends
        rw [computed]
        cases lineClass with
        | opens other => simpa [Means] using noGuard other
        | closes => simpa [Means, noGuard] using noEnd
        | plain => simpa [Means, noGuard] using noEnd

end Guard
end KernelInventory
