import KernelInventory.Exclusion

/-!
# One more pattern

Wherever a pattern is put among others, it can change what an exclusion decides only in
its own sense: a pattern that excludes does not make anything kept that was skipped
without it, and one that takes back does not make anything skipped that was kept.
-/

namespace KernelInventory
namespace Pattern

/-- Whether a pattern text is one that takes back what other patterns say. -/
def isNegated (text : String) : Bool :=
  text.toList.head? = some '!'

/-- Trimming leaves nothing of a pattern, or its first character. -/
theorem head?_trimmed {text : List Char} (nonempty : trimmed text ≠ []) :
    (trimmed text).head? = text.head? := by
  unfold trimmed at nonempty ⊢
  split
  · rfl
  next unescaped =>
    rw [if_neg unescaped] at nonempty
    have front : Text.trimEnd text <+: text := by
      have rest := List.dropWhile_suffix (l := text.reverse) Text.isBlank
      simpa [Text.trimEnd, Text.dropEndWhile] using List.reverse_prefix.mpr rest
    obtain ⟨behind, same⟩ := front
    cases trimmedText : Text.trimEnd text with
    | nil => exact absurd trimmedText nonempty
    | cons first others =>
        rw [← same, trimmedText]
        rfl

/-- A pattern that is about something excludes unless its text is one that takes
back. -/
theorem excludes_of_ofString?
    {text : String} {pattern : Pattern}
    (read : ofString? text = .ok (some pattern)) :
    pattern.excludes = !isNegated text := by
  have ofRule : ∀ (found : Rule) (excludes : Bool),
      (checkRule found).map (fun rule => some (Pattern.mk excludes rule)) =
        .ok (some pattern) →
        pattern.excludes = excludes := by
    intro found excludes checked
    cases kept : checkRule found with
    | error failure => simp [kept, Except.map] at checked
    | ok rule =>
        rw [kept] at checked
        exact (congrArg Pattern.excludes (Option.some.inj (Except.ok.inj checked))).symm
  unfold ofString? at read
  dsimp only at read
  split at read
  · simp at read
  next present =>
    have head : (trimmed text.toList).head? = text.toList.head? := by
      refine head?_trimmed fun empty => present (Or.inl ?_)
      rw [empty, List.isEmpty_nil]
    generalize (if (trimmed text.toList).head? ≠ some '!' then trimmed text.toList
      else (trimmed text.toList).drop 1) = body at read
    split at read
    · cases read
    · split at read
      · cases read
      · cases read
      · rw [ofRule _ _ read, isNegated, head]
        exact decide_not

end Pattern

namespace Exclusion

/-! ## Matches -/

/-- What matches decide, the last pattern's first. -/
def verdict (hits : List (Bool × Bool)) : Bool :=
  match hits.find? (!·.2) <|> hits.head? with
  | some (excludes, _) => excludes
  | none => false

theorem decides_eq_verdict (exclusion : Exclusion) (text : List Char) :
    exclusion.decides text = verdict (exclusion.hits text) := rfl

/-- One more match leaves the decision as it is, or makes it its own. -/
theorem verdict_insert (later earlier : List (Bool × Bool)) (hit : Bool × Bool) :
    verdict (later ++ hit :: earlier) = verdict (later ++ earlier) ∨
      verdict (later ++ hit :: earlier) = hit.1 := by
  unfold verdict
  rw [List.find?_append, List.find?_append, List.find?_cons]
  cases later.find? (!·.2) with
  | some first => exact Or.inl rfl
  | none =>
      obtain ⟨excludes, marked⟩ := hit
      cases marked with
      | false => exact Or.inr rfl
      | true =>
          dsimp only
          cases earlier.find? (!·.2) with
          | some first => exact Or.inl rfl
          | none =>
              cases later with
              | nil => exact Or.inr rfl
              | cons first others => exact Or.inl rfl

/-- One more pattern leaves what is decided about a text as it is, or has it its own
way. -/
theorem decides_insert (before after : List Pattern) (pattern : Pattern)
    (text : List Char) :
    decides ⟨before ++ pattern :: after⟩ text = decides ⟨before ++ after⟩ text ∨
      decides ⟨before ++ pattern :: after⟩ text = pattern.excludes := by
  simp only [decides_eq_verdict, hits, List.reverse_append, List.reverse_cons,
    List.filterMap_append, List.append_assoc, List.filterMap_cons, List.filterMap_nil]
  cases pattern.rule.find? text with
  | none => exact Or.inl rfl
  | some marked => exact verdict_insert _ _ (pattern.excludes, marked)

/-! ## Skipped paths -/

/-- Everything that the one exclusion skips, the other one skips as well. -/
def SkipsWithin (less more : Option Exclusion) : Prop :=
  ∀ path directory, less.any (·.skips path directory) = true →
    more.any (·.skips path directory) = true

theorem SkipsWithin.refl (exclusion : Option Exclusion) :
    SkipsWithin exclusion exclusion :=
  fun _ _ skipped => skipped

theorem SkipsWithin.trans
    {less middle more : Option Exclusion}
    (first : SkipsWithin less middle)
    (second : SkipsWithin middle more) :
    SkipsWithin less more :=
  fun path directory skipped => second path directory (first path directory skipped)

theorem skipsWithin_of_decides
    {less more : Exclusion}
    (each : ∀ text, less.decides text = true → more.decides text = true) :
    SkipsWithin (some less) (some more) := by
  intro path directory skipped
  rw [Option.any_some, skips] at skipped ⊢
  split at skipped
  · cases skipped
  next nonempty =>
    rw [if_neg nonempty]
    rw [Bool.or_eq_true, Bool.and_eq_true] at skipped ⊢
    exact skipped.imp (each _) (And.imp_right (each _))

/-- A further pattern that excludes only adds to what is skipped. -/
theorem skipsWithin_insert_excluding
    {before after : List Pattern} {pattern : Pattern}
    (excludes : pattern.excludes = true) :
    SkipsWithin (some ⟨before ++ after⟩) (some ⟨before ++ pattern :: after⟩) := by
  refine skipsWithin_of_decides fun text decided => ?_
  rcases decides_insert before after pattern text with same | own
  · exact same.trans decided
  · exact own.trans excludes

/-- A further pattern that takes back only takes from what is skipped. -/
theorem skipsWithin_insert_keeping
    {before after : List Pattern} {pattern : Pattern}
    (keeps : pattern.excludes = false) :
    SkipsWithin (some ⟨before ++ pattern :: after⟩) (some ⟨before ++ after⟩) := by
  refine skipsWithin_of_decides fun text decided => ?_
  rcases decides_insert before after pattern text with same | own
  · exact same.symm.trans decided
  · rw [own, keeps] at decided
    cases decided

/-! ## Lists of patterns -/

/-- The texts of patterns give an exclusion; no texts may also give none. -/
def ReadAs (texts : List String) (exclusion : Option Exclusion) : Prop :=
  exclusion = none ∧ texts = [] ∨
    ∃ patterns, exclusion = some patterns ∧ ofPatterns texts = .ok patterns

theorem ofPatterns_cons_eq_ok_iff {text : String} {rest : List String}
    {exclusion : Exclusion} :
    ofPatterns (text :: rest) = .ok exclusion ↔
      ∃ pattern others, Pattern.ofString? text = .ok pattern ∧
        ofPatterns rest = .ok others ∧
        exclusion = ⟨pattern.toList ++ others.patterns⟩ := by
  unfold ofPatterns
  rw [List.mapM_cons]
  cases Pattern.ofString? text with
  | error failure => simp [bind, Except.bind, Except.map]
  | ok pattern =>
      cases rest.mapM Pattern.ofString? with
      | error failure => simp [bind, Except.bind, Except.map]
      | ok others =>
          cases pattern <;>
            simp [bind, Except.bind, Except.map, pure, Except.pure, eq_comm]

/-- What a list of texts with one more in it gives is what the list gives with a pattern
in between, if the text is about something. -/
theorem exists_ofPatterns_of_insert
    {before after : List String} {text : String} {more : Exclusion}
    (read : ofPatterns (before ++ text :: after) = .ok more) :
    ∃ pattern front back,
      Pattern.ofString? text = .ok pattern ∧ ofPatterns (before ++ after) =
        .ok ⟨front ++ back⟩ ∧
        more = ⟨front ++ pattern.toList ++ back⟩ := by
  induction before generalizing more with
  | nil =>
      obtain ⟨pattern, others, readText, readAfter, rfl⟩ :=
        ofPatterns_cons_eq_ok_iff.mp read
      exact ⟨pattern, [], others.patterns, readText, readAfter, rfl⟩
  | cons first rest inductionHypothesis =>
      obtain ⟨pattern, others, readFirst, readRest, rfl⟩ :=
        ofPatterns_cons_eq_ok_iff.mp read
      obtain ⟨inserted, front, back, readText, readOthers, rfl⟩ :=
        inductionHypothesis readRest
      refine ⟨inserted, pattern.toList ++ front, back, readText, ?_, ?_⟩
      · refine ofPatterns_cons_eq_ok_iff.mpr
          ⟨pattern, ⟨front ++ back⟩, readFirst, readOthers, ?_⟩
        rw [List.append_assoc]
      · simp only [List.append_assoc]

namespace ReadAs

/-- What is read from texts skips what the exclusion of their patterns skips. -/
theorem exists_patterns
    {texts : List String} {exclusion : Option Exclusion}
    (read : ReadAs texts exclusion) :
    ∃ patterns, ofPatterns texts = .ok patterns ∧
      SkipsWithin exclusion (some patterns) ∧
      SkipsWithin (some patterns) exclusion := by
  rcases read with ⟨rfl, rfl⟩ | ⟨patterns, rfl, read⟩
  · refine ⟨⟨[]⟩, rfl, ?_, ?_⟩
    · intro path directory skipped
      cases skipped
    · intro path directory skipped
      simp [skips, decides, hits] at skipped
  · exact ⟨patterns, read, SkipsWithin.refl _, SkipsWithin.refl _⟩

/-- One more text adds to what is skipped, or takes from it if it is one that takes
back. -/
theorem skipsWithin_insert
    {before after : List String} {text : String} {fewer more : Option Exclusion}
    (readFewer : ReadAs (before ++ after) fewer)
    (readMore : ReadAs (before ++ text :: after) more) :
    (Pattern.isNegated text = false → SkipsWithin fewer more) ∧
      (Pattern.isNegated text = true → SkipsWithin more fewer) := by
  obtain ⟨few, fewRead, fewerFew, fewFewer⟩ := readFewer.exists_patterns
  obtain ⟨many, manyRead, moreMany, manyMore⟩ := readMore.exists_patterns
  obtain ⟨inserted, front, back, readText, same, rfl⟩ :=
    exists_ofPatterns_of_insert manyRead
  obtain rfl := Except.ok.inj (fewRead.symm.trans same)
  cases inserted with
  | none =>
      rw [Option.toList_none, List.append_nil] at moreMany manyMore
      exact ⟨fun _ => fewerFew.trans manyMore, fun _ => moreMany.trans fewFewer⟩
  | some pattern =>
      have sense := Pattern.excludes_of_ofString? readText
      rw [Option.toList_some, List.append_assoc,
        List.singleton_append] at moreMany manyMore
      refine ⟨fun plain => ?_, fun negated => ?_⟩
      · rw [plain] at sense
        exact (fewerFew.trans (skipsWithin_insert_excluding sense)).trans manyMore
      · rw [negated] at sense
        exact (moreMany.trans (skipsWithin_insert_keeping sense)).trans fewFewer

end ReadAs

end Exclusion
end KernelInventory
